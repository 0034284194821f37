import HostRouting.Json.Basic
import HostRouting.Text.Surrogate

/-!
# Reading JSON

A reader of the grammar of RFC 8259. Each reader takes the text in front of it and
returns what it read with the rest. Values nest through a fuel argument that starts at
twice the length of the text; every value and every element takes at least one
character, so it does not run out. Escapes are checked one by one and only then joined
to characters, where a surrogate without its partner leaves the literal without text.
-/
namespace HostRouting.Json

open Text (hexDigit? isHighSurrogate isLowSurrogate surrogatePair)

def isJsonSpace (c : Char) : Bool := c = ' ' || c = '\t' || c = '\n' || c = '\r'

def skipSpace (t : Text) : Text := t.dropWhile isJsonSpace

def hexUnit? (a b c d : Char) : Option Nat :=
  match hexDigit? a, hexDigit? b, hexDigit? c, hexDigit? d with
  | some a, some b, some c, some d => some (((a * 16 + b) * 16 + c) * 16 + d)
  | _, _, _, _ => none

/-- The character that a backslash and one letter stand for. -/
def shortEscape? : Char → Option Char
  | '\x22' => some '\x22'
  | '\\' => some '\\'
  | '/' => some '/'
  | 'b' => some '\x08'
  | 'f' => some '\x0c'
  | 'n' => some '\n'
  | 'r' => some '\r'
  | 't' => some '\t'
  | _ => none

/-- A part of a string literal: a character, or the code unit of a `\u` escape. -/
inductive Piece where
  | char (c : Char)
  | unit (n : Nat)
  deriving DecidableEq, Repr

/-- The parts of a literal whose opening quote has been read, up to the closing one. -/
def readPieces : Text → Option (List Piece × Text)
  | [] => none
  | '\x22' :: rest => some ([], rest)
  | '\\' :: 'u' :: a :: b :: c :: d :: rest =>
    match hexUnit? a b c d, readPieces rest with
    | some n, some (pieces, rest) => some (.unit n :: pieces, rest)
    | _, _ => none
  | '\\' :: c :: rest =>
    match shortEscape? c, readPieces rest with
    | some c, some (pieces, rest) => some (.char c :: pieces, rest)
    | _, _ => none
  | c :: rest =>
    if c.toNat < 0x20 then none
    else (readPieces rest).map fun (pieces, rest) => (.char c :: pieces, rest)

/-- The text of the parts; none when a surrogate stands alone. -/
def joinPieces : List Piece → JsonString
  | [] => some []
  | .char c :: rest => (joinPieces rest).map (c :: ·)
  | .unit n :: .unit m :: rest =>
    if isHighSurrogate n && isLowSurrogate m then (joinPieces rest).map (surrogatePair n m :: ·)
    else if isHighSurrogate n || isLowSurrogate n then none
    else (joinPieces (.unit m :: rest)).map (Char.ofNat n :: ·)
  | .unit n :: rest =>
    if isHighSurrogate n || isLowSurrogate n then none
    else (joinPieces rest).map (Char.ofNat n :: ·)

/-- A string literal whose opening quote has been read. -/
def readString (t : Text) : Option (JsonString × Text) :=
  (readPieces t).map fun (pieces, rest) => (joinPieces pieces, rest)

/-- A nonempty run of decimal digits. -/
def readDigits (t : Text) : Option (Text × Text) :=
  let digits := t.takeWhile Char.isDigit
  if digits.isEmpty then none else some (digits, t.dropWhile Char.isDigit)

/-- The whole part of a number: a zero alone, or digits that do not start with one. -/
def readWhole : Text → Option (Text × Text)
  | '0' :: c :: rest => if c.isDigit then none else some (['0'], c :: rest)
  | t => readDigits t

def readFraction : Text → Option (Option Text × Text)
  | '.' :: rest => (readDigits rest).map fun (digits, rest) => (some digits, rest)
  | t => some (none, t)

def readExponent : Text → Option (Option (Bool × Text) × Text)
  | e :: rest =>
    if e = 'e' || e = 'E' then
      match rest with
      | '+' :: rest => (readDigits rest).map fun (digits, rest) => (some (false, digits), rest)
      | '-' :: rest => (readDigits rest).map fun (digits, rest) => (some (true, digits), rest)
      | _ => (readDigits rest).map fun (digits, rest) => (some (false, digits), rest)
    else some (none, e :: rest)
  | [] => some (none, [])

def readUnsigned (negative : Bool) (t : Text) : Option (JsonNumber × Text) :=
  match readWhole t with
  | none => none
  | some (whole, rest) =>
    match readFraction rest with
    | none => none
    | some (fraction, rest) =>
      (readExponent rest).map fun (exponent, rest) => (⟨negative, whole, fraction, exponent⟩, rest)

def readNumber : Text → Option (JsonNumber × Text)
  | '-' :: rest => readUnsigned true rest
  | t => readUnsigned false t

mutual

/-- A value with the white space before it. -/
def readValue : Nat → Text → Option (Json × Text)
  | 0, _ => none
  | fuel + 1, t =>
    match skipSpace t with
    | 'n' :: 'u' :: 'l' :: 'l' :: rest => some (.null, rest)
    | 't' :: 'r' :: 'u' :: 'e' :: rest => some (.bool true, rest)
    | 'f' :: 'a' :: 'l' :: 's' :: 'e' :: rest => some (.bool false, rest)
    | '\x22' :: rest => (readString rest).map fun (contents, rest) => (.string contents, rest)
    | '[' :: rest =>
      match skipSpace rest with
      | ']' :: rest => some (.array [], rest)
      | rest => (readElements fuel rest).map fun (elements, rest) => (.array elements, rest)
    | '\x7b' :: rest =>
      match skipSpace rest with
      | '\x7d' :: rest => some (.object [], rest)
      | rest => (readMembers fuel rest).map fun (members, rest) => (.object members, rest)
    | rest => (readNumber rest).map fun (literal, rest) => (.number literal, rest)

/-- The elements of an array that has at least one, with the closing bracket. -/
def readElements : Nat → Text → Option (List Json × Text)
  | 0, _ => none
  | fuel + 1, t =>
    match readValue fuel t with
    | none => none
    | some (element, rest) =>
      match skipSpace rest with
      | ']' :: rest => some ([element], rest)
      | ',' :: rest =>
        (readElements fuel rest).map fun (elements, rest) => (element :: elements, rest)
      | _ => none

/-- The members of an object that has at least one, with the closing brace. -/
def readMembers : Nat → Text → Option (List (JsonString × Json) × Text)
  | 0, _ => none
  | fuel + 1, t =>
    match skipSpace t with
    | '\x22' :: rest =>
      match readString rest with
      | none => none
      | some (name, rest) =>
        match skipSpace rest with
        | ':' :: rest =>
          match readValue fuel rest with
          | none => none
          | some (value, rest) =>
            match skipSpace rest with
            | '\x7d' :: rest => some ([(name, value)], rest)
            | ',' :: rest =>
              (readMembers fuel rest).map fun (members, rest) => ((name, value) :: members, rest)
            | _ => none
        | _ => none
    | _ => none

end

/-- The value that the whole text holds, white space around it apart. -/
def ofText? (t : Text) : Option Json :=
  match readValue (2 * t.length + 2) t with
  | some (value, rest) => if (skipSpace rest).isEmpty then some value else none
  | none => none

/-- The text that a string literal standing alone denotes. -/
def literalText? (t : Text) : Option Text :=
  match skipSpace t with
  | '\x22' :: rest =>
    match readString rest with
    | some (contents, rest) => if (skipSpace rest).isEmpty then contents else none
    | none => none
  | _ => none

end HostRouting.Json
