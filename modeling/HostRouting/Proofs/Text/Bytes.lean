import HostRouting.Text.Utf8
import Mathlib.Tactic.IntervalCases

/-!
# Text and its bytes

Decoding gives back what was encoded. The decoder reads a character byte by byte: the first byte
says how many follow and in which range the next one lies, and each of those adds six bits. The
range is what keeps the characters apart that could be written too long, the surrogates, and what
lies beyond the last character, so it is the bounds of a character that put its second byte in it.
-/
namespace HostRouting.Text

namespace Utf8State

variable {owed value x : Nat} {lower upper : UInt8} {rest : List UInt8}

theorem toNat_ofNat_add (hupper : x + 128 ≤ upper.toNat) :
    (UInt8.ofNat (x + 128)).toNat = x + 128 := by
  have hsize : upper.toNat < 2 ^ 8 := upper.toNat_lt
  rw [UInt8.toNat_ofNat']
  exact Nat.mod_eq_of_lt (by omega)

theorem mem_range (hlower : lower.toNat ≤ x + 128) (hupper : x + 128 ≤ upper.toNat) :
    lower ≤ UInt8.ofNat (x + 128) ∧ UInt8.ofNat (x + 128) ≤ upper := by
  rw [UInt8.le_iff_toNat_le, UInt8.le_iff_toNat_le, toNat_ofNat_add hupper]
  exact ⟨hlower, hupper⟩

/-- A byte in the range adds its six bits to an open sequence that owes more than it. -/
theorem run_next (hlower : lower.toNat ≤ x + 128) (hupper : x + 128 ≤ upper.toNat) :
    run ⟨owed + 2, lower, upper, value⟩ (UInt8.ofNat (x + 128) :: rest) =
      run ⟨owed + 1, 0x80, 0xBF, value * 64 + x⟩ rest := by
  have hbyte : (UInt8.ofNat (x + 128)).toNat - 128 = x := by
    rw [toNat_ofNat_add hupper, Nat.add_sub_cancel]
  simp only [run, step, if_pos (mem_range hlower hupper), Nat.add_one_ne_zero, if_false,
    hbyte, List.nil_append]

/-- The last byte that is owed completes the character. -/
theorem run_last (hlower : lower.toNat ≤ x + 128) (hupper : x + 128 ≤ upper.toNat) :
    run ⟨1, lower, upper, value⟩ (UInt8.ofNat (x + 128) :: rest) =
      Char.ofNat (value * 64 + x) :: run idle rest := by
  have hbyte : (UInt8.ofNat (x + 128)).toNat - 128 = x := by
    rw [toNat_ofNat_add hupper, Nat.add_sub_cancel]
  simp only [run, step, if_pos (mem_range hlower hupper), if_true, hbyte,
    List.singleton_append]

/-- Six bits are in the range of every byte but the second. -/
theorem six_bits_range (h : x < 64) :
    (0x80 : UInt8).toNat ≤ x + 128 ∧ x + 128 ≤ (0xBF : UInt8).toNat := by
  change 128 ≤ x + 128 ∧ x + 128 ≤ 191
  omega

theorem lead_one (h : x < 128) : lead (UInt8.ofNat x) = ([Char.ofNat x], idle) := by
  have hbyte : (UInt8.ofNat x).toNat = x := by
    rw [UInt8.toNat_ofNat']
    exact Nat.mod_eq_of_lt (by omega)
  have hsmall : UInt8.ofNat x < 0x80 := by
    rw [UInt8.lt_iff_toNat_lt, hbyte]
    exact h
  rw [lead, if_pos hsmall, hbyte]

theorem lead_two (hlow : 2 ≤ x) (hhigh : x < 32) :
    lead (UInt8.ofNat (x + 192)) = ([], ⟨1, 0x80, 0xBF, x⟩) := by
  interval_cases x <;> rfl

theorem lead_three (h : x < 16) : lead (UInt8.ofNat (x + 224)) =
    ([], ⟨2, if x = 0 then 0xA0 else 0x80, if x = 13 then 0x9F else 0xBF, x⟩) := by
  interval_cases x <;> rfl

theorem lead_four (h : x < 5) : lead (UInt8.ofNat (x + 240)) =
    ([], ⟨3, if x = 0 then 0x90 else 0x80, if x = 4 then 0x8F else 0xBF, x⟩) := by
  interval_cases x <;> rfl

theorem run_idle_cons (b : UInt8) :
    run idle (b :: rest) = (lead b).1 ++ run (lead b).2 rest := rfl

/-- The bytes of a character are read as this character. -/
theorem run_utf8EncodeChar (c : Char) (rest : List UInt8) :
    run idle (String.utf8EncodeChar c ++ rest) = c :: run idle rest := by
  have hchar : Char.ofNat c.toNat = c := c.ofNat_toNat
  have hvalid : c.toNat < 0xD800 ∨ 0xDFFF < c.toNat ∧ c.toNat < 0x110000 := c.valid
  have hval : c.val.toNat = c.toNat := rfl
  unfold String.utf8EncodeChar
  simp only [hval]
  generalize c.toNat = v at hchar hvalid
  rw [← hchar]
  have hlast := six_bits_range (x := v % 64) (Nat.mod_lt v (by decide))
  split_ifs with hone htwo hthree
  · rw [List.singleton_append, run_idle_cons, lead_one (by omega)]
    rfl
  · have hlead : v / 64 % 32 = v / 64 := Nat.mod_eq_of_lt (by omega)
    rw [hlead, List.cons_append, run_idle_cons, lead_two (by omega) (by omega), List.nil_append,
      List.singleton_append, run_last hlast.1 hlast.2, Nat.div_add_mod']
  · have hlead : v / 4096 % 16 = v / 4096 := Nat.mod_eq_of_lt (by omega)
    have hvalue : (v / 4096 * 64 + v / 64 % 64) * 64 + v % 64 = v := by omega
    rw [hlead, List.cons_append, run_idle_cons, lead_three (by omega), List.nil_append,
      List.cons_append, run_next, List.singleton_append, run_last hlast.1 hlast.2, hvalue]
    · split_ifs
      · change 160 ≤ v / 64 % 64 + 128
        omega
      · exact Nat.le_add_left _ _
    · split_ifs
      · change v / 64 % 64 + 128 ≤ 159
        omega
      · change v / 64 % 64 + 128 ≤ 191
        omega
  · have hlead : v / 262144 % 8 = v / 262144 := Nat.mod_eq_of_lt (by omega)
    have hthird := six_bits_range (x := v / 64 % 64) (Nat.mod_lt _ (by decide))
    have hvalue : ((v / 262144 * 64 + v / 4096 % 64) * 64 + v / 64 % 64) * 64 + v % 64 = v := by
      omega
    rw [hlead, List.cons_append, run_idle_cons, lead_four (by omega), List.nil_append,
      List.cons_append, run_next, List.cons_append, run_next hthird.1 hthird.2,
      List.singleton_append, run_last hlast.1 hlast.2, hvalue]
    · split_ifs
      · change 144 ≤ v / 4096 % 64 + 128
        omega
      · exact Nat.le_add_left _ _
    · split_ifs
      · change v / 4096 % 64 + 128 ≤ 143
        omega
      · change v / 4096 % 64 + 128 ≤ 191
        omega

end Utf8State

theorem ofUtf8_utf8Bytes (t : Text) : ofUtf8 (utf8Bytes t) = t := by
  unfold ofUtf8 utf8Bytes
  induction t with
  | nil => rfl
  | cons c t ih => rw [List.flatMap_cons, Utf8State.run_utf8EncodeChar, ih]

end HostRouting.Text
