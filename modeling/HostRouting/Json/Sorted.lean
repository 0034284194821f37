import HostRouting.Json.Basic

/-!
# Sorted members

A value with the members of every object in the order of their names, code point by code
point. Of several members with one name the last counts.
-/
namespace HostRouting.Json

/-- Whether a name comes before another one; a name without text comes first. -/
def nameBefore : JsonString → JsonString → Bool
  | none, some _ => true
  | some a, some b => decide (a < b)
  | _, none => false

/-- Sorted members with one more; an equal name is replaced. -/
def insertMember (name : JsonString) (value : Json) :
    List (JsonString × Json) → List (JsonString × Json)
  | [] => [(name, value)]
  | (other, old) :: rest =>
    if name = other then (name, value) :: rest
    else if nameBefore name other then (name, value) :: (other, old) :: rest
    else (other, old) :: insertMember name value rest

mutual

def sorted : Json → Json
  | .array elements => .array (sortedElements elements)
  | .object members => .object (sortedMembers [] members)
  | .null => .null
  | .bool value => .bool value
  | .number literal => .number literal
  | .string contents => .string contents

def sortedElements : List Json → List Json
  | [] => []
  | element :: rest => sorted element :: sortedElements rest

/-- The members sorted into those that come before them. -/
def sortedMembers (before : List (JsonString × Json)) :
    List (JsonString × Json) → List (JsonString × Json)
  | [] => before
  | (name, value) :: rest => sortedMembers (insertMember name (sorted value) before) rest

end

end HostRouting.Json
