import HostRouting.Text.Digits
import HostRouting.Text.Utf8

/-!
# Percent encoding

The sets of characters that the parts of a URL escape, and the escaping of the bytes of
a character as `%` and two upper case digits. Every set holds the controls and all
characters beyond ASCII. Decoding turns each well-formed escape into its byte and
leaves a stray percent sign alone.
-/
namespace HostRouting.Url

/-- A set of characters to escape. -/
abbrev EscapeSet := Char → Bool

namespace EscapeSet

def controls : EscapeSet := fun c => c.toNat < 0x20 || 0x7E < c.toNat

/-- The set with the characters of a string added to it. -/
def add (s : EscapeSet) (more : String) : EscapeSet := fun c => s c || more.toList.contains c

def fragment : EscapeSet := controls.add " \x22<>\x60"
def query : EscapeSet := controls.add " \x22#<>"
def specialQuery : EscapeSet := query.add "\x27"
def path : EscapeSet := fragment.add "#?^\x7b\x7d"
def userinfo : EscapeSet := path.add "/:;=@[\\]|"

end EscapeSet

def escapeByte (b : UInt8) : Text :=
  ['%', Text.upperHexDigit (b.toNat / 16), Text.upperHexDigit b.toNat]

def escapeChar (s : EscapeSet) (c : Char) : Text :=
  if s c then (Text.utf8Bytes [c]).flatMap escapeByte else [c]

def escape (s : EscapeSet) (t : Text) : Text := t.flatMap (escapeChar s)

/-- The bytes of a text in which escapes stand for their bytes. -/
def unescape : Text → List UInt8
  | [] => []
  | '%' :: a :: b :: rest =>
    match Text.hexDigit? a, Text.hexDigit? b with
    | some a, some b => UInt8.ofNat (16 * a + b) :: unescape rest
    | _, _ => Text.utf8Bytes ['%'] ++ unescape (a :: b :: rest)
  | c :: rest => Text.utf8Bytes [c] ++ unescape rest

end HostRouting.Url
