import HostRouting.Idna.CompositionData

/-!
# Composed text

The normal form in which every character is composed as far as it can be. A text is
decomposed, the marks behind each starter are put in the order of their classes, and
then starters take up what follows them unless something stands between. Syllables of
Hangul are composed by arithmetic, all others by the table.
-/
namespace HostRouting.Idna

/-- The class of a character in a list of stretches; zero outside of them. -/
def classIn : List Nat → Nat → Nat
  | first :: count :: value :: rest, n =>
    if first ≤ n ∧ n < first + count then value else classIn rest n
  | _, _ => 0

def combiningClass (n : Nat) : Nat := classIn combiningClasses n

namespace Hangul

def syllableBase : Nat := 0xAC00
def leadBase : Nat := 0x1100
def vowelBase : Nat := 0x1161
def tailBase : Nat := 0x11A7
def vowelCount : Nat := 21
def tailCount : Nat := 28
def syllableCount : Nat := 11172

def isSyllable (n : Nat) : Bool := syllableBase ≤ n && n < syllableBase + syllableCount

def decompose (n : Nat) : List Nat :=
  let index := n - syllableBase
  let tail := index % tailCount
  [leadBase + index / (vowelCount * tailCount), vowelBase + index / tailCount % vowelCount] ++
    if tail = 0 then [] else [tailBase + tail]

def compose? (a b : Nat) : Option Nat :=
  if leadBase ≤ a ∧ a < leadBase + 19 ∧ vowelBase ≤ b ∧ b < vowelBase + vowelCount then
    some (syllableBase + ((a - leadBase) * vowelCount + (b - vowelBase)) * tailCount)
  else if isSyllable a ∧ (a - syllableBase) % tailCount = 0 ∧ tailBase < b ∧
      b < tailBase + tailCount then
    some (a + (b - tailBase))
  else none

end Hangul

/-- The character that two make in a list of compositions. -/
def composedIn? : List Nat → Nat → Nat → Option Nat
  | first :: second :: made :: rest, a, b =>
    if first = a ∧ second = b then some made else composedIn? rest a b
  | _, _, _ => none

/-- The two characters that make one in a list of compositions. -/
def partsIn? : List Nat → Nat → Option (Nat × Nat)
  | first :: second :: made :: rest, n => if made = n then some (first, second) else partsIn? rest n
  | _, _ => none

def compose? (a b : Nat) : Option Nat := (Hangul.compose? a b).or (composedIn? compositions a b)

/-- The parts of a character; no character has parts within parts more than four deep. -/
def decompose : Nat → Nat → List Nat
  | 0, n => [n]
  | depth + 1, n =>
    if Hangul.isSyllable n then Hangul.decompose n
    else
      match partsIn? compositions n with
      | some (first, second) => decompose depth first ++ [second]
      | none => [n]

/-- Puts a mark in its place among those before it, which are given last first. -/
def placeMark (n : Nat) : List Nat → List Nat
  | [] => [n]
  | last :: before =>
    if 0 < combiningClass n ∧ combiningClass n < combiningClass last then
      last :: placeMark n before
    else n :: last :: before

/-- Code points with the marks in order. -/
def orderMarks (codes : List Nat) : List Nat :=
  (codes.foldl (fun before n => placeMark n before) []).reverse

/-- A composer: what is finished, the open starter, and the marks behind it, last first. -/
structure Composer where
  finished : List Nat := []
  starter : Option Nat := none
  marks : List Nat := []

namespace Composer

def flush (c : Composer) : List Nat := c.finished ++ c.starter.toList ++ c.marks.reverse

/-- Whether the last mark keeps a character from its starter. -/
def isBlocked (c : Composer) (n : Nat) : Bool :=
  match c.marks with
  | [] => false
  | last :: _ => combiningClass n ≤ combiningClass last

def step (c : Composer) (n : Nat) : Composer :=
  match c.starter.bind fun starter => if c.isBlocked n then none else compose? starter n with
  | some made => { c with starter := some made }
  | none =>
    if combiningClass n = 0 then { finished := c.flush, starter := some n }
    else { c with marks := n :: c.marks }

end Composer

/-- The composed form of a text. -/
def composed (t : Text) : Text :=
  let codes := orderMarks ((t.map Char.toNat).flatMap (decompose 4))
  (codes.foldl Composer.step {}).flush.map Char.ofNat

end HostRouting.Idna
