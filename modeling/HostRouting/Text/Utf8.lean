import HostRouting.Text.Basic

/-!
# Text as UTF-8

Encoding is exact. Decoding never fails: every longest ill-formed start of a sequence
becomes one replacement character, and the byte that broke it is read anew. The decoder
is a machine with one step for each byte; its state is what a sequence still owes.
-/
namespace HostRouting.Text

def utf8Bytes (t : Text) : List UInt8 := t.flatMap String.utf8EncodeChar

theorem utf8Bytes_append (t u : Text) : utf8Bytes (t ++ u) = utf8Bytes t ++ utf8Bytes u :=
  List.flatMap_append

theorem utf8Bytes_eq_nil_iff {t : Text} : utf8Bytes t = [] ↔ t = [] := by
  constructor
  · intro h
    cases t with
    | nil => rfl
    | cons c rest =>
      have hpos : 0 < (String.utf8EncodeChar c).length := by
        rw [String.length_utf8EncodeChar]
        exact c.utf8Size_pos
      rw [utf8Bytes, List.flatMap_cons, List.append_eq_nil_iff] at h
      rw [h.1] at hpos
      exact absurd hpos (Nat.lt_irrefl 0)
  · intro h
    rw [h]
    rfl

def replacement : Char := '\ufffd'

/-- An open sequence: continuation bytes owed, the range of the next one, and the value of
the bytes read. Nothing is open when none is owed. -/
structure Utf8State where
  owed : Nat
  lower : UInt8
  upper : UInt8
  value : Nat

namespace Utf8State

def idle : Utf8State := ⟨0, 0x80, 0xBF, 0⟩

/-- A byte read between sequences. -/
def lead (b : UInt8) : Text × Utf8State :=
  if b < 0x80 then ([Char.ofNat b.toNat], idle)
  else if 0xC2 ≤ b ∧ b ≤ 0xDF then ([], ⟨1, 0x80, 0xBF, b.toNat - 0xC0⟩)
  else if b = 0xE0 then ([], ⟨2, 0xA0, 0xBF, 0⟩)
  else if b = 0xED then ([], ⟨2, 0x80, 0x9F, 0xD⟩)
  else if 0xE1 ≤ b ∧ b ≤ 0xEF then ([], ⟨2, 0x80, 0xBF, b.toNat - 0xE0⟩)
  else if b = 0xF0 then ([], ⟨3, 0x90, 0xBF, 0⟩)
  else if 0xF1 ≤ b ∧ b ≤ 0xF3 then ([], ⟨3, 0x80, 0xBF, b.toNat - 0xF0⟩)
  else if b = 0xF4 then ([], ⟨3, 0x80, 0x8F, 4⟩)
  else ([replacement], idle)

def step (s : Utf8State) (b : UInt8) : Text × Utf8State :=
  match s.owed with
  | 0 => lead b
  | owed + 1 =>
    if s.lower ≤ b ∧ b ≤ s.upper then
      let value := s.value * 64 + (b.toNat - 0x80)
      if owed = 0 then ([Char.ofNat value], idle) else ([], ⟨owed, 0x80, 0xBF, value⟩)
    else (replacement :: (lead b).1, (lead b).2)

def run (s : Utf8State) : List UInt8 → Text
  | [] => if s.owed = 0 then [] else [replacement]
  | b :: rest => (s.step b).1 ++ run (s.step b).2 rest

end Utf8State

def ofUtf8 (bytes : List UInt8) : Text := Utf8State.idle.run bytes

end HostRouting.Text
