import HostRouting.Idna.MappingData

/-!
# Mapping characters

A domain name is mapped character by character before anything else is done with it.
ASCII letters are put in lower case, and all other ASCII characters stay.
-/
namespace HostRouting.Idna

/-- The image of a character in a list of series. -/
def shifted? : List Nat → Nat → Option Nat
  | first :: count :: step :: target :: rest, n =>
    if first ≤ n ∧ n < first + count * step ∧ (n - first) % step = 0 then
      some (target + (n - first))
    else shifted? rest n
  | _, _ => none

/-- The image of a character in a list of pairs. -/
def replaced? : List Nat → Nat → Option Nat
  | code :: target :: rest, n => if code = n then some target else replaced? rest n
  | _, _ => none

/-- The image of a character in a list of expansions. -/
def expanded? : List Nat → Nat → Option (List Nat)
  | code :: count :: rest, n =>
    if code = n then some (rest.take count) else expanded? (rest.drop count) n
  | _, _ => none
termination_by codes => codes.length
decreasing_by
  simp only [List.length_drop, List.length_cons]
  omega

/-- What a character beyond ASCII is mapped to; none for one that is refused. -/
def mapCode (n : Nat) : Option (List Nat) :=
  if Text.inRuns ignoredRuns n then some []
  else
    (((shifted? shifts n).or (replaced? replacements n)).map fun target => [target]).or
      ((expanded? expansions n).or (if Text.inRuns validRuns n then some [n] else none))

def mapChar (c : Char) : Option Text :=
  if c.toNat < 0x80 then some [c.toLower] else (mapCode c.toNat).map (·.map Char.ofNat)

/-- The text with every character mapped; none when one is refused. -/
def mapText (t : Text) : Option Text := (t.mapM mapChar).map List.flatten

end HostRouting.Idna
