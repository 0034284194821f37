import HostRouting.Idna.Label
import HostRouting.Idna.Mapping
import HostRouting.Idna.Punycode

/-!
# Domain names in ASCII

A domain name is mapped and composed, and its labels are checked, by Unicode Technical
Standard 46 without its transitional part. A label that says it is encoded must be the
encoding of a valid label; every label beyond ASCII is then encoded.
-/
namespace HostRouting.Idna

def encodedMark : Text := "xn--".toList

def isAscii (t : Text) : Bool := t.all (·.toNat < 0x80)

/-- Whether a decoded label is one that mapping would leave as it is. -/
def isSettled (label : Text) : Bool :=
  !isAscii label && (mapText label).map composed = some label

/-- The label that a mapped label stands for. -/
def decodeLabel? (label : Text) : Option Text :=
  match encodedMark.isPrefixOf? label with
  | some encoded => (Punycode.decode encoded).filter isSettled
  | none => some label

/-- The labels of a domain name, beyond ASCII where they are. -/
def labels? (domain : Text) : Option (List Text) := do
  let mapped ← mapText domain
  let labels ← ((composed mapped).splitOn '.').mapM decodeLabel?
  guard (labels.all isWellFormed)
  guard (labels.all keepsDirection || !labels.any hasRightToLeft)
  return labels

def encodeLabel (label : Text) : Text :=
  if isAscii label then label else encodedMark ++ Punycode.encode label

/-- The domain name with all labels in ASCII. -/
def toAscii? (domain : Text) : Option Text :=
  (labels? domain).map fun labels => ['.'].intercalate (labels.map encodeLabel)

end HostRouting.Idna
