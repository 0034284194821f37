import HostRouting.Text.Digits

/-!
# TOML strings

The four kinds of strings: with escapes or without, on one line or on several. A reader
takes the text after the opening quotes and returns the string and what follows the
closing ones. Several lines may start with a line end that does not count, each line
end is a line feed, and up to two quotes may stand before the closing three.
-/
namespace HostRouting.Toml

open Text (hexadecimal?)

def isBlankChar (c : Char) : Bool := c = ' ' || c = '\t'

/-- A character that may stand in a comment or a string: no control but the tab. -/
def isPlainChar (c : Char) : Bool := c = '\t' || (0x20 ≤ c.toNat && c.toNat ≠ 0x7F)

/-- The text after a line end. -/
def afterLineEnd? : Text → Option Text
  | '\n' :: rest => some rest
  | '\r' :: '\n' :: rest => some rest
  | _ => none

/-- The character of a code point in hexadecimal digits. -/
def codePoint? (digits : Text) : Option Char :=
  (hexadecimal? digits).bind fun n => if n.isValidChar then some (Char.ofNat n) else none

/-- The character of an escape without its backslash, and the length of the escape. -/
def escape? : Text → Option (Char × Nat)
  | 'b' :: _ => some ('\x08', 1)
  | 't' :: _ => some ('\t', 1)
  | 'n' :: _ => some ('\n', 1)
  | 'f' :: _ => some ('\x0c', 1)
  | 'r' :: _ => some ('\r', 1)
  | '\x22' :: _ => some ('\x22', 1)
  | '\\' :: _ => some ('\\', 1)
  | 'u' :: rest =>
    if rest.length < 4 then none else (codePoint? (rest.take 4)).map fun c => (c, 5)
  | 'U' :: rest =>
    if rest.length < 8 then none else (codePoint? (rest.take 8)).map fun c => (c, 9)
  | _ => none

/-- A string with escapes on one line. The first `skip` characters belong to an escape that
has been read. -/
def readBasic : Nat → Text → Option (Text × Text)
  | _, [] => none
  | skip + 1, _ :: rest => readBasic skip rest
  | 0, '\x22' :: rest => some ([], rest)
  | 0, '\\' :: rest =>
    match escape? rest with
    | some (c, length) => (readBasic length rest).map fun (t, rest) => (c :: t, rest)
    | none => none
  | 0, c :: rest =>
    if isPlainChar c then (readBasic 0 rest).map fun (t, rest) => (c :: t, rest) else none

/-- A string without escapes on one line. -/
def readLiteral : Text → Option (Text × Text)
  | [] => none
  | '\x27' :: rest => some ([], rest)
  | c :: rest =>
    if isPlainChar c then (readLiteral rest).map fun (t, rest) => (c :: t, rest) else none

/-- The length of the white space, line ends included, at the start of a text. -/
def whiteLength : Text → Nat
  | ' ' :: rest => 1 + whiteLength rest
  | '\t' :: rest => 1 + whiteLength rest
  | '\n' :: rest => 1 + whiteLength rest
  | '\r' :: '\n' :: rest => 2 + whiteLength rest
  | _ => 0

/-- The length of a line end that a backslash has escaped, with all white space after it. -/
def joinedLength? (t : Text) : Option Nat :=
  if (afterLineEnd? (t.dropWhile isBlankChar)).isSome then some (whiteLength t) else none

/-- The quotes of a string that stand before its three closing ones, and what follows them. -/
def closing? (quote : Char) : Text → Option (Text × Text)
  | a :: b :: c :: rest =>
    if a = quote ∧ b = quote ∧ c = quote then
      match rest with
      | d :: e :: rest =>
        if d = quote ∧ e = quote then some ([quote, quote], rest)
        else if d = quote then some ([quote], e :: rest)
        else some ([], d :: e :: rest)
      | [d] => if d = quote then some ([quote], []) else some ([], [d])
      | [] => some ([], [])
    else none
  | _ => none

/-- A string with escapes on several lines. The first `skip` characters have been read. -/
def readLines : Nat → Text → Option (Text × Text)
  | _, [] => none
  | skip + 1, _ :: rest => readLines skip rest
  | 0, '\\' :: rest =>
    match joinedLength? rest, escape? rest with
    | some length, _ => readLines length rest
    | none, some (c, length) => (readLines length rest).map fun (t, rest) => (c :: t, rest)
    | none, none => none
  | 0, '\n' :: rest => (readLines 0 rest).map fun (t, rest) => ('\n' :: t, rest)
  | 0, '\r' :: '\n' :: rest => (readLines 0 rest).map fun (t, rest) => ('\n' :: t, rest)
  | 0, c :: rest =>
    match closing? '\x22' (c :: rest) with
    | some (quotes, rest) => some (quotes, rest)
    | none =>
      if isPlainChar c then (readLines 0 rest).map fun (t, rest) => (c :: t, rest) else none

/-- A string without escapes on several lines. -/
def readLiteralLines : Text → Option (Text × Text)
  | [] => none
  | '\n' :: rest => (readLiteralLines rest).map fun (t, rest) => ('\n' :: t, rest)
  | '\r' :: '\n' :: rest => (readLiteralLines rest).map fun (t, rest) => ('\n' :: t, rest)
  | c :: rest =>
    match closing? '\x27' (c :: rest) with
    | some (quotes, rest) => some (quotes, rest)
    | none =>
      if isPlainChar c then (readLiteralLines rest).map fun (t, rest) => (c :: t, rest) else none

/-- The text without the line end that it starts with. -/
def dropLineEnd (t : Text) : Text := (afterLineEnd? t).getD t

/-- A string of any kind, with its quotes. -/
def readQuotes : Text → Option (Text × Text)
  | '\x22' :: '\x22' :: '\x22' :: rest => readLines 0 (dropLineEnd rest)
  | '\x22' :: rest => readBasic 0 rest
  | '\x27' :: '\x27' :: '\x27' :: rest => readLiteralLines (dropLineEnd rest)
  | '\x27' :: rest => readLiteral rest
  | _ => none

end HostRouting.Toml
