import HostRouting.Json.Basic

/-!
# TOML values

The values of TOML 1.0. A table remembers how it came to be, because that decides how it
may still be extended. Floats and dates are kept as they were written.
-/
namespace HostRouting

/-- What brought a table into being: a header of its own, the header of a table below it,
a key with dots, or braces. -/
inductive TableOrigin where
  | header
  | parent
  | dotted
  | inline
  deriving DecidableEq, Repr

/-- An array of tables holds the tables of its headers so far, the last one apart. -/
inductive Toml where
  | string (contents : Text)
  | integer (value : Int)
  | float (written : Text)
  | bool (value : Bool)
  | dateTime (written : Text)
  | array (elements : List Toml)
  | table (origin : TableOrigin) (entries : List (Text × Toml))
  | tables (closed : List Toml) (last : List (Text × Toml))
  deriving Repr, Inhabited

namespace Toml

def integerLiteral (n : Int) : JsonNumber := ⟨n < 0, Text.ofNat n.natAbs, none, none⟩

/-- A number that is no integer. -/
def floatLiteral : JsonNumber := ⟨false, ['0'], some ['0'], none⟩

mutual

/-- The value as a record reader sees it. A float is some number with a fraction, and a date
is a record of its own. -/
def toJson : Toml → Json
  | .string contents => .text contents
  | .integer value => .number (integerLiteral value)
  | .float _ => .number floatLiteral
  | .bool value => .bool value
  | .dateTime written => .record [("date-time", .text written)]
  | .array elements => .array (elementsJson elements)
  | .table _ entries => .object (entriesJson entries)
  | .tables closed last => .array (elementsJson closed ++ [.object (entriesJson last)])

def elementsJson : List Toml → List Json
  | [] => []
  | element :: rest => toJson element :: elementsJson rest

def entriesJson : List (Text × Toml) → List (JsonString × Json)
  | [] => []
  | (key, value) :: rest => (some key, toJson value) :: entriesJson rest

end

end Toml
end HostRouting
