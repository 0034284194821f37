import HostRouting.Text.Printable

/-!
# Text in quotes, for logs

A text between double quotes on one line. The quote, the backslash, the null character
and the three common controls have short escapes, and every other hidden character is
written by its code point in braces.
-/
namespace HostRouting.Text

/-- The hexadecimal code point of a character, in lower case. -/
def codePoint (c : Char) : Text := Nat.toDigits 16 c.toNat

def quotedChar (c : Char) : Text :=
  if c = '\x00' then ['\\', '0']
  else if c = '\t' then ['\\', 't']
  else if c = '\r' then ['\\', 'r']
  else if c = '\n' then ['\\', 'n']
  else if c = '\x22' then ['\\', '\x22']
  else if c = '\\' then ['\\', '\\']
  else if isPrintable c then [c]
  else "\\u\x7b".toList ++ codePoint c ++ ['\x7d']

def quoted (t : Text) : Text := '\x22' :: t.flatMap quotedChar ++ ['\x22']

end HostRouting.Text
