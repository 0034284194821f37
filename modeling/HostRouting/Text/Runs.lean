import HostRouting.Text.Digits

/-!
# Character properties as runs

A property that holds on long stretches of code points is written as the lengths of
these stretches, in decimal and separated by white space: how many code points do not have
it, how many then do, and so on in turn.
-/
namespace HostRouting.Text

/-- The decimal numbers between the white space of a text. -/
def numbers (t : Text) : List Nat := (t.splitOnP isSpace).filterMap decimal?

/-- Whether the number lies in a stretch that has the property. -/
def inRuns : List Nat → Nat → Bool
  | without :: with_ :: rest, n =>
    if n < without then false
    else if n < without + with_ then true
    else inRuns rest (n - (without + with_))
  | _, _ => false

end HostRouting.Text
