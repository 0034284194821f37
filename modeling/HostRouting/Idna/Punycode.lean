import HostRouting.Text.Basic

/-!
# Punycode

Labels with characters beyond ASCII in ASCII letters, by RFC 3492. The ASCII characters
come first, then a hyphen when there are any, and then the others: each is a number that
says how far to go on from the last one, through all places of the text and all code
points. The numbers have digits of a base that changes from place to place.
-/
namespace HostRouting.Idna

namespace Punycode

def base : Nat := 36

/-- The digits below which a number ends, at the place of weight `k`. -/
def threshold (k bias : Nat) : Nat := max 1 (min 26 (k - bias))

theorem one_le_threshold (k bias : Nat) : 1 ≤ threshold k bias := Nat.le_max_left ..

theorem threshold_le (k bias : Nat) : threshold k bias ≤ 26 := by
  unfold threshold
  omega

/-- The bias of a reduced distance. -/
def settle (distance : Nat) : Nat :=
  if 455 < distance then base + settle (distance / 35)
  else base * distance / (distance + 38)
termination_by distance

/-- The bias after a distance that brought the text to so many characters. -/
def adapt (distance length : Nat) (first : Bool) : Nat :=
  let distance := if first then distance / 700 else distance / 2
  settle (distance + distance / length)

def digitValue? (c : Char) : Option Nat :=
  if 'a' ≤ c ∧ c ≤ 'z' then some (c.toNat - 'a'.toNat)
  else if 'A' ≤ c ∧ c ≤ 'Z' then some (c.toNat - 'A'.toNat)
  else if '0' ≤ c ∧ c ≤ '9' then some (c.toNat - '0'.toNat + 26)
  else none

def digit (n : Nat) : Char :=
  if n < 26 then Char.ofNat ('a'.toNat + n) else Char.ofNat ('0'.toNat + (n - 26))

/-- A decoder in the middle of its input: the text so far, the last code point, the place
where it stands and stood before the number that is being read, and the weight, place and
bias of the next digit. -/
structure Decoder where
  output : Text
  code : Nat := 0x80
  position : Nat := 0
  start : Nat := 0
  weight : Nat := 1
  place : Nat := base
  bias : Nat := 72

namespace Decoder

/-- The text with the character of a finished number in its place. -/
def insert (d : Decoder) : Option Decoder :=
  let length := d.output.length + 1
  let code := d.code + d.position / length
  let position := d.position % length
  if code.isValidChar then
    some
      { output := d.output.take position ++ Char.ofNat code :: d.output.drop position
        code := code
        position := position + 1
        start := position + 1
        bias := adapt (d.position - d.start) length (d.start = 0) }
  else none

def step (d : Decoder) (n : Nat) : Option Decoder :=
  let d := { d with position := d.position + n * d.weight }
  let limit := threshold d.place d.bias
  if n < limit then d.insert
  else some { d with weight := d.weight * (base - limit), place := d.place + base }

def run (d : Decoder) : Text → Option Text
  | [] => if d.place = base then some d.output else none
  | c :: rest =>
    match (digitValue? c).bind d.step with
    | some d => run d rest
    | none => none

end Decoder

/-- The ASCII characters of an encoded label, and its numbers. -/
def splitBasic (t : Text) : Text × Text :=
  match t.reverse.dropWhile (· ≠ '-') with
  | _ :: c :: before => ((c :: before).reverse, (t.reverse.takeWhile (· ≠ '-')).reverse)
  | _ => ([], t)

def decode (t : Text) : Option Text :=
  let (basic, numbers) := splitBasic t
  if basic.all (·.toNat < 0x80) then Decoder.run { output := basic } numbers else none

/-- The digits of a number. -/
def encodeNumber (n place bias : Nat) : Text :=
  let limit := threshold place bias
  if limit ≤ n then
    digit (limit + (n - limit) % (base - limit)) ::
      encodeNumber ((n - limit) / (base - limit)) (place + base) bias
  else [digit n]
termination_by n
decreasing_by
  have h₁ := one_le_threshold place bias
  have h₂ := threshold_le place bias
  have : (n - threshold place bias) / (base - threshold place bias) ≤ n - threshold place bias :=
    Nat.div_le_self ..
  omega

/-- An encoder between two numbers: the numbers written, the distance gone since the last one,
the characters handled, and the bias. -/
structure Encoder where
  output : Text := []
  distance : Nat := 0
  handled : Nat
  bias : Nat := 72
  first : Bool := true

namespace Encoder

/-- Goes over one character of the text while the code points stand at `code`. -/
def visit (code : Nat) (e : Encoder) (c : Char) : Encoder :=
  if c.toNat < code then { e with distance := e.distance + 1 }
  else if c.toNat = code then
    { output := e.output ++ encodeNumber e.distance base e.bias
      distance := 0
      handled := e.handled + 1
      bias := adapt e.distance (e.handled + 1) e.first
      first := false }
  else e

/-- Goes on to the code points of a list, from the one after the last. -/
def run (t : Text) (e : Encoder) : Nat → List Nat → Text
  | _, [] => e.output
  | next, code :: rest =>
    let e := { e with distance := e.distance + (code - next) * (e.handled + 1) }
    let e := t.foldl (visit code) e
    run t { e with distance := e.distance + 1 } (code + 1) rest

end Encoder

/-- The code points beyond ASCII in a text, in order and each once. -/
def codesBeyond (t : Text) : List Nat :=
  ((t.map Char.toNat).filter (0x80 ≤ ·)).mergeSort.eraseReps

def encode (t : Text) : Text :=
  let basic := t.filter (·.toNat < 0x80)
  basic ++ (if basic.isEmpty then [] else ['-']) ++
    Encoder.run t { handled := basic.length } 0x80 (codesBeyond t)

end Punycode
end HostRouting.Idna
