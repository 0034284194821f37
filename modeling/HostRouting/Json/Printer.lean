import HostRouting.Json.Basic

/-!
# Printing JSON

The compact form on one line, and an indented form with two spaces for each level.
Strings escape the quote, the backslash and the control characters below U+0020, with
the short escapes where there are some. A string without text is printed as null.
-/
namespace HostRouting.Json

def escapeChar (c : Char) : Text :=
  if c = '\x22' then ['\\', '\x22']
  else if c = '\\' then ['\\', '\\']
  else if c = '\x08' then ['\\', 'b']
  else if c = '\x0c' then ['\\', 'f']
  else if c = '\n' then ['\\', 'n']
  else if c = '\r' then ['\\', 'r']
  else if c = '\t' then ['\\', 't']
  else if c.toNat < 0x20 then
    ['\\', 'u', '0', '0', Text.lowerHexDigit (c.toNat / 16), Text.lowerHexDigit c.toNat]
  else [c]

def quote (t : Text) : Text := '\x22' :: t.flatMap escapeChar ++ ['\x22']

def printString : JsonString → Text
  | some t => quote t
  | none => "null".toList

def printNumber (n : JsonNumber) : Text :=
  (if n.negative then ['-'] else []) ++ n.whole ++
    (match n.fraction with
      | some digits => '.' :: digits
      | none => []) ++
    (match n.exponent with
      | some (true, digits) => 'e' :: '-' :: digits
      | some (false, digits) => 'e' :: digits
      | none => [])

mutual

def print : Json → Text
  | .null => "null".toList
  | .bool true => "true".toList
  | .bool false => "false".toList
  | .number literal => printNumber literal
  | .string contents => printString contents
  | .array elements => '[' :: printElements elements ++ [']']
  | .object members => '\x7b' :: printMembers members ++ ['\x7d']

def printElements : List Json → Text
  | [] => []
  | [element] => print element
  | element :: rest => print element ++ ',' :: printElements rest

def printMembers : List (JsonString × Json) → Text
  | [] => []
  | [(name, value)] => printString name ++ ':' :: print value
  | (name, value) :: rest => printString name ++ ':' :: print value ++ ',' :: printMembers rest

end

/-- A line feed and the indentation of a level. -/
def newLine (level : Nat) : Text := '\n' :: List.replicate (2 * level) ' '

mutual

/-- The indented form of a value that starts on a line of the given level. -/
def printIndented (level : Nat) : Json → Text
  | .array (element :: rest) =>
    '[' :: indentedElements (level + 1) (element :: rest) ++ newLine level ++ [']']
  | .object (member :: rest) =>
    '\x7b' :: indentedMembers (level + 1) (member :: rest) ++ newLine level ++ ['\x7d']
  | .array [] => ['[', ']']
  | .object [] => ['\x7b', '\x7d']
  | .null => "null".toList
  | .bool true => "true".toList
  | .bool false => "false".toList
  | .number literal => printNumber literal
  | .string contents => printString contents

def indentedElements (level : Nat) : List Json → Text
  | [] => []
  | [element] => newLine level ++ printIndented level element
  | element :: rest =>
    newLine level ++ printIndented level element ++ ',' :: indentedElements level rest

def indentedMembers (level : Nat) : List (JsonString × Json) → Text
  | [] => []
  | [(name, value)] =>
    newLine level ++ printString name ++ ':' :: ' ' :: printIndented level value
  | (name, value) :: rest =>
    newLine level ++ printString name ++ ':' :: ' ' :: printIndented level value ++
      ',' :: indentedMembers level rest

end

end HostRouting.Json
