import HostRouting.Json.Basic

/-!
# Values that fit in memory cells

A reader that keeps a value, instead of passing over it, has to hold it: every string
must denote a text, every number must be computed without leaving the range of a double,
and containers may nest only so deep. A number is computed as a product. A 64-bit word
takes the digits from left to right until the next one does not fit, and what is left is
a power of ten. Both factors are rounded to doubles before they are multiplied, so a
number just below the largest double may be lost.
-/
namespace HostRouting

/-- The word that has taken the digits of a text, the first ones first, until one did not
fit, and the digits that are left from there. -/
def takeDigits (word : Nat) : Text → Nat × Text
  | [] => (word, [])
  | c :: rest =>
    if word * 10 + (c.toNat - '0'.toNat) < UInt64.size then
      takeDigits (word * 10 + (c.toNat - '0'.toNat)) rest
    else (word, c :: rest)

/-- The double nearest to a natural number: 53 binary places, the even one of two that are
equally near. -/
def roundToDouble (n : Nat) : Nat :=
  let unit := Nat.pow 2 (n.log2 + 1 - 53)
  let places := n / unit
  if 2 * (n % unit) + places % 2 ≤ unit then places * unit else (places + 1) * unit

/-- The least magnitude that rounds beyond the largest double: the middle between that and
two to the power 1024. -/
def overflowBound : Nat := Nat.pow 2 1024 - Nat.pow 2 970

/-- Whether a word times a power of ten stays in range. A negative power divides. -/
def isProductFinite (word : Nat) (exponent : Int) : Bool :=
  exponent < 0 || (exponent ≤ 308 &&
    roundToDouble word * roundToDouble (Nat.pow 10 exponent.toNat) < overflowBound)

/-- The word of a number, and the power of ten that goes with it before the exponent is
looked at. Digits of the whole part that are left over raise it, and every digit taken from
the fraction lowers it. -/
def JsonNumber.scaled (n : JsonNumber) : Nat × Int :=
  let (whole, above) := takeDigits 0 n.whole
  let fraction := n.fraction.getD []
  let (word, below) := takeDigits whole fraction
  (word, above.length - (fraction.length - below.length : Nat))

/-- Whether the number is computed without leaving the range of a double. An exponent is
read into a signed word of 32 bits; beyond that it means zero or no number at all. -/
def JsonNumber.isFinite (n : JsonNumber) : Bool :=
  let (word, scale) := n.scaled
  word = 0 ||
    match n.exponent with
    | none => isProductFinite word scale
    | some (negative, digits) =>
      let exponent := Text.digitsValue digits
      if 0x80000000 ≤ exponent then negative
      else isProductFinite word (if negative then scale - exponent else scale + exponent)

namespace Json

mutual

/-- Whether the value can be held under a number of further levels of nesting. -/
def isHoldable (levels : Nat) : Json → Bool
  | .number literal => literal.isFinite
  | .string contents => contents.isSome
  | .array elements => 1 ≤ levels && allHoldable (levels - 1) elements
  | .object members => 1 ≤ levels && allMembersHoldable (levels - 1) members
  | .null => true
  | .bool _ => true

def allHoldable (levels : Nat) : List Json → Bool
  | [] => true
  | element :: rest => isHoldable levels element && allHoldable levels rest

def allMembersHoldable (levels : Nat) : List (JsonString × Json) → Bool
  | [] => true
  | (name, value) :: rest =>
    name.isSome && isHoldable levels value && allMembersHoldable levels rest

end

end Json
end HostRouting
