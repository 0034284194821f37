import HostRouting.Proofs.Text.Trimming
import Mathlib.Data.List.Infix

/-!
# First words and quoted parts

A text without white space begins a trimmed line only if it begins the first word of
the line. A text that holds a separator stands in a line only where the line
has that separator, with the same text in front of it and behind it.
-/
namespace HostRouting.Text

/-- The visible characters up to the first white space behind them. -/
def firstWord (t : Text) : Text := (trimStart t).takeWhile (!isSpace ·)

theorem isPrefix_firstWord {n t : Text} (hn : ∀ c ∈ n, isSpace c = false) (h : n <+: trim t) :
    n <+: firstWord t := by
  have hstart : n <+: trimStart t := h.trans (List.rdropWhile_prefix isSpace _)
  obtain ⟨rest, hrest⟩ := hstart
  rw [firstWord, ← hrest, List.takeWhile_append_of_pos (by simpa using hn)]
  exact List.prefix_append _ _

theorem firstWord_eq_takeWhile_trim (t : Text) :
    firstWord t = (trim t).takeWhile (!isSpace ·) := by
  obtain ⟨gap, hgap, hblank⟩ := exists_append_dropEndWhile isSpace (trimStart t)
  have htrim : trimStart t = trim t ++ gap := hgap
  have hnone : gap.takeWhile (!isSpace ·) = [] := by
    cases gap with
    | nil => rfl
    | cons c rest => exact List.takeWhile_cons_of_neg (by simp [hblank c List.mem_cons_self])
  rw [firstWord, htrim, List.takeWhile_append]
  split_ifs with h
  · rw [hnone, List.append_nil]
    exact ((List.takeWhile_prefix _).eq_of_length h).symm
  · rfl

/-- A text splits at its first separator in one way only. -/
theorem separated_inj {s : Char} {u v p q : Text} (hu : s ∉ u) (hp : s ∉ p) :
    u ++ s :: v = p ++ s :: q ↔ u = p ∧ v = q := by
  constructor
  · intro h
    induction u generalizing p with
    | nil =>
        cases p with
        | nil => exact ⟨rfl, (List.cons.inj h).2⟩
        | cons c p => exact absurd (List.cons.inj h).1 (by rintro rfl; simp at hp)
    | cons c u ih =>
        cases p with
        | nil => exact absurd (List.cons.inj h).1 (by rintro rfl; simp at hu)
        | cons b p =>
            obtain ⟨rfl, htail⟩ := List.cons.inj h
            obtain ⟨rfl, hvq⟩ := ih (fun hs => hu (List.mem_cons_of_mem _ hs))
              (fun hs => hp (List.mem_cons_of_mem _ hs)) htail
            exact ⟨rfl, hvq⟩
  · rintro ⟨rfl, rfl⟩
    rfl

/-- A text splits at its last separator in one way only. -/
theorem separated_inj_last {s : Char} {u v p q : Text} (hv : s ∉ v) (hq : s ∉ q) :
    u ++ s :: v = p ++ s :: q ↔ u = p ∧ v = q := by
  have hreverse : u ++ s :: v = p ++ s :: q ↔
      v.reverse ++ s :: u.reverse = q.reverse ++ s :: p.reverse := by
    rw [← List.reverse_inj]
    simp
  rw [hreverse, separated_inj (by rwa [List.mem_reverse]) (by rwa [List.mem_reverse]),
    List.reverse_inj, List.reverse_inj, and_comm]

/-- A separator behind a text without it stands where it stands in front of another. -/
theorem isPrefix_separated_iff {s : Char} {u v p q : Text} (hu : s ∉ u) (hp : s ∉ p) :
    u ++ s :: v <+: p ++ s :: q ↔ u = p ∧ v <+: q := by
  constructor
  · rintro ⟨rest, h⟩
    rw [List.append_assoc, List.cons_append, separated_inj hu hp] at h
    exact ⟨h.1, rest, h.2⟩
  · rintro ⟨rfl, rest, rfl⟩
    exact ⟨rest, by simp⟩

/-- A text with a separator stands in a line around the first separator of the line or behind it. -/
theorem isInfix_separated_iff {s : Char} {u v p q : Text} (hu : s ∉ u) (hp : s ∉ p) :
    u ++ s :: v <:+: p ++ s :: q ↔ (u <:+ p ∧ v <+: q) ∨ u ++ s :: v <:+: q := by
  constructor
  · rintro ⟨x, y, h⟩
    by_cases hx : s ∈ x
    · obtain ⟨x₁, x₂, rfl, hx₁⟩ := List.eq_append_cons_of_mem hx
      have hcut : x₁ ++ s :: (x₂ ++ (u ++ s :: v) ++ y) = p ++ s :: q := by simpa using h
      rw [separated_inj hx₁ hp] at hcut
      exact .inr ⟨x₂, y, hcut.2⟩
    · have hxu : s ∉ x ++ u := by simp [hx, hu]
      have hcut : (x ++ u) ++ s :: (v ++ y) = p ++ s :: q := by simpa using h
      rw [separated_inj hxu hp] at hcut
      exact .inl ⟨⟨x, hcut.1⟩, y, hcut.2⟩
  · rintro (⟨⟨x, rfl⟩, y, rfl⟩ | h)
    · exact ⟨x, y, by simp⟩
    · exact h.trans ((List.suffix_cons _ _).trans (List.suffix_append _ _)).isInfix

/-- A lead without the first character of what is searched for adds nothing to find. -/
theorem isInfix_append_left_iff {c : Char} {n p t : Text} (h : c ∉ p) :
    c :: n <:+: p ++ t ↔ c :: n <:+: t := by
  induction p with
  | nil => rfl
  | cons b p ih =>
      have hb : c ≠ b := fun he => h (he ▸ List.mem_cons_self)
      rw [List.cons_append, List.infix_cons_iff, ih fun hc => h (List.mem_cons_of_mem _ hc)]
      simp [List.cons_prefix_cons, hb]

/-- Nor does a trail without its last character. -/
theorem isInfix_append_right_iff {c : Char} {n p t : Text} (h : c ∉ t) :
    n ++ [c] <:+: p ++ t ↔ n ++ [c] <:+: p := by
  rw [← List.reverse_infix, List.reverse_append, List.reverse_append, List.reverse_singleton,
    List.singleton_append, isInfix_append_left_iff (by simpa using h), ← List.reverse_concat',
    List.reverse_infix]

/-- How a text with an ending begins another: inside its stem, across its ending, or past it. -/
theorem append_isPrefix_append_iff {a s b t : Text} : a ++ s <+: b ++ t ↔
    a ++ s <+: b ∨ (∃ i < s.length, b = a ++ s.take i ∧ s.drop i <+: t) ∨
      ∃ i ≤ t.length, a = b ++ t.take i ∧ t.take i ++ s <+: t := by
  constructor
  · rintro ⟨r, h⟩
    rw [List.append_assoc] at h
    rcases List.append_eq_append_iff.mp h with ⟨w, rfl, hw⟩ | ⟨w, rfl, rfl⟩
    · rcases List.append_eq_append_iff.mp hw with ⟨u, rfl, -⟩ | ⟨u, rfl, rfl⟩
      · exact .inl ⟨u, by simp⟩
      · cases u with
        | nil => exact .inl (by simp)
        | cons c u => exact .inr (.inl ⟨w.length, by simp, by simp, by simp⟩)
    · exact .inr (.inr ⟨w.length, by simp, by simp, by simp⟩)
  · rintro (h | ⟨i, -, rfl, r, hr⟩ | ⟨i, -, rfl, r, hr⟩)
    · exact h.trans (List.prefix_append _ _)
    · exact ⟨r, by rw [← hr, List.append_assoc, List.append_assoc, ← List.append_assoc (s.take i),
        List.take_append_drop]⟩
    · exact ⟨r, by simpa only [List.append_assoc] using congrArg (b ++ ·) hr⟩

end HostRouting.Text
