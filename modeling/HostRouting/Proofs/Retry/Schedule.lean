import HostRouting.Retry.Backoff
import Mathlib.Algebra.Order.Group.Nat
import Mathlib.Order.MinMax

/-!
# The schedule of the delays

Words that stop at their largest value compute a number cut off at that value. The power and the
product of a delay are cut off one after the other, and then the delay is cut off at its maximum,
which is a word itself: so neither of the two earlier cuts can be seen, and the delay is the exact
product cut off at the maximum.
-/
namespace HostRouting

theorem toNat_maxWord : maxWord.toNat = 2 ^ 64 - 1 := by decide

theorem toNat_le_maxWord (a : UInt64) : a.toNat ≤ maxWord.toNat := by
  have hlt : a.toNat < 2 ^ 64 := a.toNat_lt
  rw [toNat_maxWord]
  omega

theorem toNat_min (a b : UInt64) : (min a b).toNat = min a.toNat b.toNat := by
  by_cases h : a ≤ b
  · have hle : a.toNat ≤ b.toNat := UInt64.le_iff_toNat_le.mp h
    rw [min_eq_left hle]
    exact congrArg UInt64.toNat (if_pos h)
  · have hle : b.toNat ≤ a.toNat := (not_le.mp fun hab => h (UInt64.le_iff_toNat_le.mpr hab)).le
    rw [min_eq_right hle]
    exact congrArg UInt64.toNat (if_neg h)

theorem toNat_saturatingMul (a b : UInt64) :
    (saturatingMul a b).toNat = min (a.toNat * b.toNat) maxWord.toNat := by
  unfold saturatingMul
  rw [toNat_maxWord]
  split
  · next hfits =>
      have hfits : a.toNat * b.toNat < 2 ^ 64 := hfits
      rw [UInt64.toNat_mul, Nat.mod_eq_of_lt hfits, min_eq_left (Nat.le_sub_one_of_lt hfits)]
  · next hlarge =>
      have hlarge : 2 ^ 64 ≤ a.toNat * b.toNat := not_lt.mp hlarge
      rw [min_eq_right (le_trans (Nat.sub_le _ _) hlarge), toNat_maxWord]

theorem toNat_saturatingPowTwo (n : UInt32) :
    (saturatingPowTwo n).toNat = min (2 ^ n.toNat) maxWord.toNat := by
  unfold saturatingPowTwo
  rw [toNat_maxWord]
  split
  · next hsmall =>
      have hsmall : n.toNat < 64 := UInt32.lt_iff_toNat_lt.mp hsmall
      have hfits : 2 ^ n.toNat < 2 ^ 64 := Nat.pow_lt_pow_right (by decide) hsmall
      rw [UInt64.toNat_shiftLeft, UInt32.toNat_toUInt64, Nat.mod_eq_of_lt hsmall,
        Nat.shiftLeft_eq, UInt64.toNat_one, one_mul, Nat.mod_eq_of_lt hfits,
        min_eq_left (Nat.le_sub_one_of_lt hfits)]
  · next hlarge =>
      have hlarge : 64 ≤ n.toNat := not_lt.mp fun h => hlarge (UInt32.lt_iff_toNat_lt.mpr h)
      have hpow : 2 ^ 64 ≤ 2 ^ n.toNat := Nat.pow_le_pow_right (by decide) hlarge
      rw [min_eq_right (le_trans (Nat.sub_le _ _) hpow), toNat_maxWord]

/-- A product cut off at a bound does not show that a factor was cut off there before, unless the
other factor is zero, and then nothing is left to show. -/
theorem min_mul_min {a b m : ℕ} : min (a * min b m) m = min (a * b) m := by
  rcases Nat.eq_zero_or_pos a with rfl | ha
  · rw [Nat.zero_mul, Nat.zero_mul]
  · rcases le_total b m with h | h
    · rw [min_eq_left h]
    · have hm : m ≤ a * m := Nat.le_mul_of_pos_left m ha
      rw [min_eq_right h, min_eq_right hm, min_eq_right (hm.trans (Nat.mul_le_mul_left a h))]

namespace Backoff

variable (b : Backoff)

theorem delayMs_zero : b.delayMs 0 = 0 := rfl

/-- The delay in exact arithmetic. -/
theorem toNat_delayMs {n : UInt32} (h : n ≠ 0) :
    (b.delayMs n).toNat = min (b.baseMs.toNat * 2 ^ (n.toNat - 1)) b.maxMs.toNat := by
  have hone : 1 ≤ n := by
    rw [UInt32.le_iff_toNat_le]
    exact Nat.one_le_iff_ne_zero.mpr fun hzero => h (UInt32.toNat_inj.mp hzero)
  have hpred : (n - 1).toNat = n.toNat - 1 := UInt32.toNat_sub_of_le n 1 hone
  have hcut : min maxWord.toNat b.maxMs.toNat = b.maxMs.toNat :=
    min_eq_right (toNat_le_maxWord b.maxMs)
  rw [delayMs, if_neg h, toNat_min, toNat_saturatingMul, toNat_saturatingPowTwo, hpred,
    min_mul_min, min_assoc, hcut]

theorem delayMs_le_maxMs (n : UInt32) : b.delayMs n ≤ b.maxMs := by
  rw [UInt64.le_iff_toNat_le]
  by_cases h : n = 0
  · rw [h, delayMs_zero]
    exact Nat.zero_le _
  · rw [toNat_delayMs b h]
    exact min_le_right _ _

theorem delayMs_mono {n m : UInt32} (hnm : n ≤ m) : b.delayMs n ≤ b.delayMs m := by
  have hle : n.toNat ≤ m.toNat := UInt32.le_iff_toNat_le.mp hnm
  rw [UInt64.le_iff_toNat_le]
  by_cases hn : n = 0
  · rw [hn, delayMs_zero]
    exact Nat.zero_le _
  · have hm : m ≠ 0 := by
      rintro rfl
      exact hn (UInt32.toNat_inj.mp (Nat.le_zero.mp hle))
    have hpow : 2 ^ (n.toNat - 1) ≤ 2 ^ (m.toNat - 1) :=
      Nat.pow_le_pow_right (by decide) (Nat.sub_le_sub_right hle 1)
    rw [toNat_delayMs b hn, toNat_delayMs b hm]
    exact min_le_min_right _ (Nat.mul_le_mul_left _ hpow)

/-- The delays are those of exact arithmetic: the base times a power of two, cut off at the maximum.
They never fall from one attempt to the next and never pass the maximum. -/
theorem delays_exact :
    (∀ n : UInt32, (b.delayMs n).toNat =
      if n = 0 then 0 else min (b.baseMs.toNat * 2 ^ (n.toNat - 1)) b.maxMs.toNat) ∧
      (∀ n m : UInt32, n ≤ m → b.delayMs n ≤ b.delayMs m) ∧
      ∀ n : UInt32, b.delayMs n ≤ b.maxMs := by
  refine ⟨fun n => ?_, fun n m hnm => b.delayMs_mono hnm, b.delayMs_le_maxMs⟩
  split
  · next h =>
      rw [h, delayMs_zero]
      rfl
  · next h => exact b.toNat_delayMs h

/-- At the largest words the power and the product are both cut off, and the delay is the maximum.
-/
theorem delays_exact_sample :
    ((⟨3, maxWord⟩ : Backoff).delayMs 64).toNat = min (3 * 2 ^ 63) (2 ^ 64 - 1) ∧
      (64 : UInt32) ≤ 4294967295 ∧
      (⟨3, maxWord⟩ : Backoff).delayMs 64 ≤ (⟨3, maxWord⟩ : Backoff).delayMs 4294967295 := by
  obtain ⟨hexact, hmono, -⟩ := delays_exact ⟨3, maxWord⟩
  have hle : (64 : UInt32) ≤ 4294967295 := by decide
  exact ⟨hexact 64, hle, hmono 64 4294967295 hle⟩

end Backoff
end HostRouting
