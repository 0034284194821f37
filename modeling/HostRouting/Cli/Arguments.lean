import HostRouting.Text.Digits

/-!
# Command line arguments

How arguments are taken apart into options and positional arguments. An option is given
once, by a long name or by a letter, with its value in the same argument or in the next
one; a value in an argument of its own does not start with a dash, unless it is only a
dash. After two dashes everything is positional. Arguments are read from left to right,
and the first one that is wrong or asks for help decides the outcome.
-/
namespace HostRouting.Cli

/-- An option: a switch, or one with a value that `accepts` allows. -/
structure OptionSpec where
  name : String
  letter : Option Char := none
  value : Option String := none
  accepts : Text → Bool := fun _ => true
  help : String := ""
  default : Option String := none

def OptionSpec.takesValue (o : OptionSpec) : Bool := o.value.isSome

/-- Why arguments are refused. -/
inductive UsageError where
  | unknown (argument : Text)
  | repeated (option : Text)
  | missingValue (option : Text)
  | invalidValue (option value : Text)
  | unneededValue (option value : Text)
  | missing (name : Text)
  | missingCommand
  deriving DecidableEq, Repr

/-- Why no command is run. -/
inductive Stop where
  | help
  | usage (error : UsageError)
  deriving DecidableEq, Repr

/-- The arguments read so far. A switch is there with an empty value. -/
structure Given where
  options : List (Text × Text) := []
  positionals : List Text := []
  deriving DecidableEq, Repr

namespace Given

def option? (g : Given) (name : String) : Option Text := g.options.lookup name.toList

def isOn (g : Given) (name : String) : Bool := (g.option? name).isSome

/-- The arguments with an option added that has not been given before. -/
def add (g : Given) (o : OptionSpec) (value : Text) : Except Stop Given :=
  let name := o.name.toList
  if g.isOn o.name then .error (.usage (.repeated name))
  else if o.accepts value then .ok { g with options := g.options ++ [(name, value)] }
  else .error (.usage (.invalidValue name value))

end Given

/-- An option that is still without its value. -/
abbrev Pending := Option OptionSpec

/-- A long option without its dashes, perhaps with a value after an equals sign. -/
def readLong (specs : List OptionSpec) (g : Given) (t : Text) : Except Stop (Given × Pending) :=
  let name := t.takeWhile (· ≠ '=')
  let attached := (t.dropWhile (· ≠ '=')).tail?
  match specs.find? fun o => o.name.toList = name with
  | some o =>
    match o.takesValue, attached with
    | true, some value => (g.add o value).map fun g => (g, none)
    | true, none => .ok (g, some o)
    | false, some value => .error (.usage (.unneededValue name value))
    | false, none => (g.add o []).map fun g => (g, none)
  | none =>
    if name = "help".toList then
      .error (match attached with
        | some value => .usage (.unneededValue name value)
        | none => .help)
    else .error (.usage (.unknown t))

/-- Letters of options without their dash; the value of the last may follow it. -/
def readLetters (specs : List OptionSpec) : Given → Text → Except Stop (Given × Pending)
  | g, [] => .ok (g, none)
  | g, c :: rest =>
    match specs.find? fun o => o.letter = some c with
    | some o =>
      if o.takesValue then
        match rest with
        | [] => .ok (g, some o)
        | '=' :: value => (g.add o value).map fun g => (g, none)
        | value => (g.add o value).map fun g => (g, none)
      else
        match g.add o [] with
        | .error stop => .error stop
        | .ok g => readLetters specs g rest
    | none => .error (if c = 'h' then .help else .usage (.unknown ['-', c]))

/-- Reads all arguments of a command with so many positional ones. -/
def readArguments (specs : List OptionSpec) (positionals : Nat) :
    Given → Pending → List Text → Except Stop Given
  | g, none, [] => .ok g
  | _, some o, [] => .error (.usage (.missingValue o.name.toList))
  | g, pending, argument :: rest =>
    match pending, argument with
    | some o, '-' :: _ :: _ => .error (.usage (.missingValue o.name.toList))
    | some o, value =>
      match g.add o value with
      | .error stop => .error stop
      | .ok g => readArguments specs positionals g none rest
    | none, ['-', '-'] =>
      if g.positionals.length + rest.length ≤ positionals then
        .ok { g with positionals := g.positionals ++ rest }
      else .error (.usage (.unknown (rest.getLastD [])))
    | none, '-' :: '-' :: name =>
      match readLong specs g name with
      | .error stop => .error stop
      | .ok (g, pending) => readArguments specs positionals g pending rest
    | none, '-' :: c :: letters =>
      match readLetters specs g (c :: letters) with
      | .error stop => .error stop
      | .ok (g, pending) => readArguments specs positionals g pending rest
    | none, value =>
      if g.positionals.length < positionals then
        readArguments specs positionals { g with positionals := g.positionals ++ [value] } none rest
      else .error (.usage (.unknown value))

/-- Reads the options in front of a command: what was given, the name of the command, and the
arguments after it. -/
def readLeading (specs : List OptionSpec) :
    Given → Pending → List Text → Except Stop (Given × Text × List Text)
  | _, none, [] => .error (.usage .missingCommand)
  | _, some o, [] => .error (.usage (.missingValue o.name.toList))
  | g, pending, argument :: rest =>
    match pending, argument with
    | some o, '-' :: _ :: _ => .error (.usage (.missingValue o.name.toList))
    | some o, value =>
      match g.add o value with
      | .error stop => .error stop
      | .ok g => readLeading specs g none rest
    | none, ['-', '-'] => .error (.usage .missingCommand)
    | none, '-' :: '-' :: name =>
      match readLong specs g name with
      | .error stop => .error stop
      | .ok (g, pending) => readLeading specs g pending rest
    | none, '-' :: c :: letters =>
      match readLetters specs g (c :: letters) with
      | .error stop => .error stop
      | .ok (g, pending) => readLeading specs g pending rest
    | none, name => .ok (g, name, rest)

/-- A decimal number with an optional sign. -/
def signedInteger? (t : Text) : Option Int :=
  match t with
  | '-' :: digits => (Text.decimal? digits).map fun n => -(n : Int)
  | '+' :: digits => (Text.decimal? digits).map Int.ofNat
  | digits => (Text.decimal? digits).map Int.ofNat

/-- A port number; sign and leading zeros are allowed. -/
def port? (t : Text) : Option UInt16 :=
  (signedInteger? t).bind fun n =>
    if 0 ≤ n ∧ n < UInt16.size then some (UInt16.ofNat n.toNat) else none

end HostRouting.Cli
