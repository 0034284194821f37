import HostRouting.Http.Basic

/-!
# Media types

The value of a content type field: a type, a subtype and parameters. Type and subtype
are tokens; the subtype reaches to its last plus sign, which a suffix follows. A
parameter is a name and a value, the value a token or a quoted string; spaces may stand
before a name and after a quoted string, and the last semicolon may end the text.
-/
namespace HostRouting.Http

def isTokenChar (c : Char) : Bool := c.isAlphanum || "!#$%&'*+-.^_`|~".toList.contains c

/-- A character inside of quotes. -/
def isQuotedChar (c : Char) : Bool := 0x20 ≤ c.toNat && c.toNat < 0x7F

/-- Type, subtype and suffix are in lower case; a parameter is as it was written. -/
structure MediaType where
  type : Text
  subtype : Text
  suffix : Option Text
  parameters : List (Text × Text)
  deriving DecidableEq, Repr

namespace MediaType

/-- A quoted string whose opening quote has been read, and what follows the closing one. A
quote directly after the opening one belongs to the string. -/
def readQuoted : Bool → Text → Option (Text × Text)
  | _, [] => none
  | first, '\x22' :: rest =>
    if first then (readQuoted false rest).map fun (t, rest) => ('\x22' :: t, rest)
    else some ([], rest)
  | _, '\\' :: c :: rest =>
    if isQuotedChar c then (readQuoted false rest).map fun (t, rest) => ('\\' :: c :: t, rest)
    else none
  | _, c :: rest =>
    if isQuotedChar c && c ≠ '\\' then
      (readQuoted false rest).map fun (t, rest) => (c :: t, rest)
    else none

/-- The value of a parameter, and the parameters after its semicolon. -/
def readValue (t : Text) : Option (Text × Text) :=
  match t with
  | '\x22' :: quoted =>
    match readQuoted true quoted with
    | none => none
    | some (value, rest) =>
      match rest.dropWhile (· = ' ') with
      | [] => some (value, [])
      | ';' :: rest => some (value, rest)
      | _ => none
  | _ =>
    match t.takeWhile isTokenChar, t.dropWhile isTokenChar with
    | value, [] => some (value, [])
    | value, ';' :: rest => if value.isEmpty then none else some (value, rest)
    | _, _ => none

/-- The parameters of a text; each takes a character or more, so the length is fuel enough. -/
def readParameters : Nat → Text → Option (List (Text × Text))
  | _, [] => some []
  | 0, _ => none
  | fuel + 1, t =>
    let t := t.dropWhile (· = ' ')
    if t.isEmpty then some []
    else
      match t.takeWhile isTokenChar, t.dropWhile isTokenChar with
      | name, '=' :: rest =>
        if name.isEmpty then none
        else
          match readValue rest with
          | none => none
          | some (value, rest) => (readParameters fuel rest).map ((name, value) :: ·)
      | _, _ => none

/-- A subtype in two parts, at its last plus sign that is not its first character. -/
def splitSuffix (t : Text) : Text × Option Text :=
  match Text.splitLast? '+' t with
  | some ([], _) => (t, none)
  | some (subtype, suffix) => (subtype, some suffix)
  | none => (t, none)

/-- The media type of a type and of what follows the slash. -/
def readSubtype (type t : Text) : Option MediaType :=
  let (subtype, suffix) := splitSuffix (lowerCase (t.takeWhile isTokenChar))
  if subtype.isEmpty then none
  else
    match t.dropWhile isTokenChar with
    | [] => some ⟨lowerCase type, subtype, suffix, []⟩
    | ';' :: rest =>
      (readParameters rest.length rest).map fun parameters =>
        ⟨lowerCase type, subtype, suffix, parameters⟩
    | _ => none

def ofText? (t : Text) : Option MediaType :=
  match t.takeWhile isTokenChar, t.dropWhile isTokenChar with
  | type, '/' :: rest => if type.isEmpty then none else readSubtype type rest
  | _, _ => none

/-- The value of the first parameter of a name; the name is given in lower case. -/
def parameter? (m : MediaType) (name : Text) : Option Text :=
  (m.parameters.find? fun p => lowerCase p.1 = name).map (·.2)

/-- JSON itself, and every application format built on it. -/
def isJson (m : MediaType) : Bool :=
  m.type = "application".toList && (m.subtype = "json".toList || m.suffix = some "json".toList)

end MediaType

/-- The media type that the headers declare. -/
def Headers.mediaType? (headers : Headers) : Option MediaType :=
  (headers.first? "content-type".toList).bind MediaType.ofText?

end HostRouting.Http
