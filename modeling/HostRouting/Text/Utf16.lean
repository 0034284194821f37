import HostRouting.Text.Surrogate
import HostRouting.Text.Utf8

/-!
# Text as UTF-16

Decoding of either byte order. It never fails: a surrogate without its partner becomes
one replacement character, and so does whatever is left over at the end.
-/
namespace HostRouting.Text

inductive ByteOrder where
  | littleEndian
  | bigEndian
  deriving DecidableEq, Repr

/-- The 16-bit unit of two bytes. -/
def ByteOrder.unit : ByteOrder → UInt8 → UInt8 → Nat
  | .littleEndian, a, b => b.toNat * 256 + a.toNat
  | .bigEndian, a, b => a.toNat * 256 + b.toNat

/-- The units of bytes taken in pairs, and whether a byte is left over. -/
def ByteOrder.units (o : ByteOrder) : List UInt8 → List Nat × Bool
  | [] => ([], false)
  | [_] => ([], true)
  | a :: b :: rest => (o.unit a b :: (o.units rest).1, (o.units rest).2)

/-- The text of units; `leftOver` says that an odd byte follows them. -/
def ofUnits (leftOver : Bool) : List Nat → Text
  | [] => if leftOver then [replacement] else []
  | [n] =>
    if isHighSurrogate n then [replacement]
    else if isLowSurrogate n then replacement :: ofUnits leftOver []
    else Char.ofNat n :: ofUnits leftOver []
  | n :: m :: rest =>
    if isHighSurrogate n then
      if isLowSurrogate m then
        surrogatePair n m :: ofUnits leftOver rest
      else replacement :: ofUnits leftOver (m :: rest)
    else if isLowSurrogate n then replacement :: ofUnits leftOver (m :: rest)
    else Char.ofNat n :: ofUnits leftOver (m :: rest)

def ofUtf16 (o : ByteOrder) (bytes : List UInt8) : Text :=
  ofUnits (o.units bytes).2 (o.units bytes).1

end HostRouting.Text
