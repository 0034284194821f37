import HostRouting.Toml.Quotes
import HostRouting.Toml.Scalar
import HostRouting.Toml.Table

/-!
# Reading TOML

A document is read line by line: headers open tables, and every other line sets a key.
Values and keys nest through a fuel argument that starts at twice the length of the
text, and no deeper than a fixed number of levels.
-/
namespace HostRouting.Toml

/-- Values nest and keys have parts up to one less than this. -/
def depthLimit : Nat := 80

def skipBlanks (t : Text) : Text := t.dropWhile isBlankChar

/-- The text after blanks, line ends and comments; the flag says that a comment is open. -/
def skipLines : Bool → Text → Option Text
  | _, [] => some []
  | _, '\n' :: rest => skipLines false rest
  | _, '\r' :: '\n' :: rest => skipLines false rest
  | true, c :: rest => if isPlainChar c then skipLines true rest else none
  | false, '#' :: rest => skipLines true rest
  | false, c :: rest => if isBlankChar c then skipLines false rest else some (c :: rest)

/-- The text after the line end that closes a comment. -/
def endComment? : Text → Option Text
  | [] => some []
  | '\n' :: rest => some rest
  | '\r' :: '\n' :: rest => some rest
  | c :: rest => if isPlainChar c then endComment? rest else none

/-- The text after the end of a line, before which blanks and a comment may stand. -/
def endLine? (t : Text) : Option Text :=
  match skipBlanks t with
  | [] => some []
  | '#' :: rest => endComment? rest
  | t => afterLineEnd? t

def isBareKeyChar (c : Char) : Bool := c.isAlphanum || c = '_' || c = '-'

/-- One part of a key. -/
def readKeyPart (t : Text) : Option (Text × Text) :=
  match t with
  | '\x22' :: rest => readBasic 0 rest
  | '\x27' :: rest => readLiteral rest
  | _ =>
    if (t.takeWhile isBareKeyChar).isEmpty then none
    else some (t.takeWhile isBareKeyChar, t.dropWhile isBareKeyChar)

/-- The parts of a key, the first one apart, with the blanks around them. -/
def readKeyParts : Nat → Text → Option ((Text × List Text) × Text)
  | 0, _ => none
  | fuel + 1, t =>
    match readKeyPart (skipBlanks t) with
    | none => none
    | some (part, rest) =>
      match skipBlanks rest with
      | '.' :: rest =>
        (readKeyParts fuel rest).map fun ((next, parts), rest) => ((part, next :: parts), rest)
      | rest => some ((part, []), rest)

/-- A key as the path to its last part, and that part. -/
def readKey (t : Text) : Option ((List Text × Text) × Text) :=
  match readKeyParts (depthLimit - 1) t with
  | some ((first, parts), rest) =>
    some (((first :: parts).dropLast, (first :: parts).getLast (by simp)), rest)
  | none => none

mutual

/-- A value that starts here. -/
def readValue : Nat → Nat → Text → Option (Toml × Text)
  | 0, _, _ => none
  | fuel + 1, levels, t =>
    match t with
    | '\x22' :: _ => (readQuotes t).map fun (contents, rest) => (.string contents, rest)
    | '\x27' :: _ => (readQuotes t).map fun (contents, rest) => (.string contents, rest)
    | '[' :: rest =>
      if levels = 0 then none
      else (readElements fuel (levels - 1) rest).map fun (elements, rest) => (.array elements, rest)
    | '\x7b' :: rest =>
      if levels = 0 then none
      else
        match skipBlanks rest with
        | '\x7d' :: rest => some (.table .inline [], rest)
        | rest =>
          match readMembers fuel (levels - 1) rest with
          | none => none
          | some (members, rest) => (inlineTable? members).map fun table => (table, rest)
    | _ => readScalar t

/-- The elements of an array up to the closing bracket; a comma may stand after the last. -/
def readElements : Nat → Nat → Text → Option (List Toml × Text)
  | 0, _, _ => none
  | fuel + 1, levels, t =>
    match skipLines false t with
    | none => none
    | some (']' :: rest) => some ([], rest)
    | some t =>
      match readValue fuel levels t with
      | none => none
      | some (element, rest) =>
        match skipLines false rest with
        | some (',' :: rest) =>
          (readElements fuel levels rest).map fun (elements, rest) => (element :: elements, rest)
        | some (']' :: rest) => some ([element], rest)
        | _ => none

/-- The keys and values of a table in braces, at least one, up to the closing brace. -/
def readMembers : Nat → Nat → Text → Option (List (List Text × Text × Toml) × Text)
  | 0, _, _ => none
  | fuel + 1, levels, t =>
    match readKey t with
    | some ((path, key), '=' :: rest) =>
      match readValue fuel levels (skipBlanks rest) with
      | none => none
      | some (value, rest) =>
        match skipBlanks rest with
        | '\x7d' :: rest => some ([(path, key, value)], rest)
        | ',' :: rest =>
          (readMembers fuel levels rest).map fun (members, rest) =>
            ((path, key, value) :: members, rest)
        | _ => none
    | _ => none

end

/-- A key with its value, as it stands on a line. -/
def readAssignment (g : Growth) (t : Text) : Option (Growth × Text) :=
  match readKey t with
  | some ((path, key), '=' :: rest) =>
    match readValue (2 * rest.length + 2) (depthLimit - 1) (skipBlanks rest) with
    | none => none
    | some (value, rest) => (g.assign path key value).map fun g => (g, rest)
  | _ => none

/-- A header whose opening brackets have been read. -/
def readHeader (opening : List Text → Text → Option Growth) (closing t : Text) :
    Option (Growth × Text) :=
  match readKey t with
  | none => none
  | some ((path, key), rest) =>
    if closing.isPrefixOf rest then
      (opening path key).map fun g => (g, rest.drop closing.length)
    else none

/-- What stands on a line, without the end of the line. -/
def readStatement (g : Growth) (t : Text) : Option (Growth × Text) :=
  match t with
  | '[' :: '[' :: rest => readHeader g.openElement [']', ']'] rest
  | '[' :: rest => readHeader g.openTable [']'] rest
  | _ => readAssignment g t

/-- All lines; every statement takes a character or more, so the length is fuel enough. -/
def readDocument : Nat → Growth → Text → Option Growth
  | 0, _, _ => none
  | fuel + 1, g, t =>
    match skipLines false t with
    | none => none
    | some [] => some g
    | some t =>
      match readStatement g t with
      | none => none
      | some (g, rest) =>
        match endLine? rest with
        | none => none
        | some rest => readDocument fuel g rest

/-- The table that a document denotes; a byte order mark may stand before it. -/
def ofText? (t : Text) : Option Toml :=
  let t := if t.head? = some '\ufeff' then t.tail else t
  (readDocument (t.length + 1) {} t).map fun g => .table .header g.entries

end HostRouting.Toml
