import HostRouting.Text.Digits

/-!
# JSON values

A value as it was written: members keep their order and their repetitions, a number
keeps its digits, and a string literal whose escapes leave a surrogate unpaired is
still a literal but denotes no text. Which of these a consumer accepts is for the
consumer to say.
-/
namespace HostRouting

/-- A number literal. The whole part is never empty; neither is a fraction or exponent
that is present. -/
structure JsonNumber where
  negative : Bool
  whole : Text
  fraction : Option Text
  exponent : Option (Bool × Text)
  deriving DecidableEq, Repr

/-- The text a string literal denotes, if it denotes one. -/
abbrev JsonString := Option Text

inductive Json where
  | null
  | bool (value : Bool)
  | number (literal : JsonNumber)
  | string (contents : JsonString)
  | array (elements : List Json)
  | object (members : List (JsonString × Json))
  deriving Repr, Inhabited

/-- The number denoted by a literal without sign, fraction and exponent. -/
def JsonNumber.nat? (n : JsonNumber) : Option Nat :=
  if n.negative || n.fraction.isSome || n.exponent.isSome then none else some (Text.digitsValue n.whole)

namespace Json

def text (t : Text) : Json := .string (some t)

def ofNat (n : Nat) : Json := .number ⟨false, Text.ofNat n, none, none⟩

def ofOption (encode : α → Json) : Option α → Json
  | some a => encode a
  | none => .null

/-- An object whose member names are given as string literals. -/
def record (members : List (String × Json)) : Json :=
  .object (members.map fun m => (some m.1.toList, m.2))

end Json
end HostRouting
