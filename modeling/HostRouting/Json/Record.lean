import HostRouting.Json.Basic

/-!
# Records read from JSON values

A record with declared members is read from an object, member by name, or from an
array, member by position. In an object unknown members are passed over and a known
one may stand only once; in an array the missing tail counts as absent. Absent members
take a default, and null stands for an absent one only where the member is optional.
Whether an array may be longer than the record is a parameter.
-/
namespace HostRouting.Json

/-- What becomes of array elements beyond the declared members. -/
inductive Surplus where
  | refused
  | ignored
  deriving DecidableEq, Repr

/-- The values of the declared members of an object. -/
def membersByName (names : List Text) (members : List (JsonString × Json)) :
    Option (List (Option Json)) :=
  if members.all (·.1.isSome) && names.all fun name => (members.map (·.1)).count (some name) ≤ 1 then
    some (names.map fun name => members.lookup (some name))
  else none

/-- The values of the declared members of an array. -/
def membersByPosition : List Text → List Json → List (Option Json)
  | [], _ => []
  | _ :: names, [] => none :: membersByPosition names []
  | _ :: names, value :: rest => some value :: membersByPosition names rest

/-- One value for each declared member of a record, where it is given. -/
def fields? (surplus : Surplus) (names : List Text) : Json → Option (List (Option Json))
  | .object members => membersByName names members
  | .array values =>
    if values.length ≤ names.length || surplus = .ignored then
      some (membersByPosition names values)
    else none
  | _ => none

def text? : Json → Option Text
  | .string contents => contents
  | _ => none

def bool? : Json → Option Bool
  | .bool value => some value
  | _ => none

/-- A number without sign, fraction and exponent, below the bound. -/
def natBelow? (bound : Nat) : Json → Option Nat
  | .number literal => literal.nat?.filter (· < bound)
  | _ => none

def uint16? (j : Json) : Option UInt16 := (natBelow? UInt16.size j).map UInt16.ofNat
def uint32? (j : Json) : Option UInt32 := (natBelow? UInt32.size j).map UInt32.ofNat
def uint64? (j : Json) : Option UInt64 := (natBelow? UInt64.size j).map UInt64.ofNat

def texts? : Json → Option (List Text)
  | .array values => values.mapM text?
  | _ => none

/-- A member that has a default. -/
def orDefault (default : α) (read : Json → Option α) : Option Json → Option α
  | none => some default
  | some j => read j

/-- An optional member: absent and null are the same. -/
def optional (read : Json → Option α) : Option Json → Option (Option α)
  | none => some none
  | some .null => some none
  | some j => (read j).map some

end HostRouting.Json
