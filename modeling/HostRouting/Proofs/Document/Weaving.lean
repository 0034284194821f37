import HostRouting.Proofs.Text.Trimming

/-!
# Lines put between numbered lines

Weaving puts extra lines before the lines of given numbers and leaves lines out by their
numbers. It says where lines stand relative to the lines of one fixed document,
whatever has been inserted elsewhere. The blank lines directly above a line form its gap.
-/
namespace HostRouting
open Text

section
variable (extra : Nat → List Text) (keep : Nat → Bool)

/-- The lines numbered from `i` on, each after the extra lines of its number. -/
def weaveFrom : Nat → List Text → List Text
  | _, [] => []
  | i, line :: rest => extra i ++ (if keep i then [line] else []) ++ weaveFrom (i + 1) rest

/-- The kept lines with `extra i` before line `i`; the end of the document counts as a line. -/
def weave (lines : List Text) : List Text := weaveFrom extra keep 0 lines ++ extra lines.length

variable {extra keep}

theorem weaveFrom_append (i : Nat) (xs ys : List Text) : weaveFrom extra keep i (xs ++ ys) =
    weaveFrom extra keep i xs ++ weaveFrom extra keep (i + xs.length) ys := by
  induction xs generalizing i with
  | nil => rfl
  | cons x xs ih =>
      rw [List.cons_append, weaveFrom, weaveFrom, ih, List.length_cons, Nat.add_right_comm,
        Nat.add_assoc i]
      simp only [List.append_assoc]

theorem weaveFrom_of_kept {i : Nat} {xs : List Text}
    (h : ∀ j, i ≤ j → j < i + xs.length → extra j = [] ∧ keep j = true) :
    weaveFrom extra keep i xs = xs := by
  induction xs generalizing i with
  | nil => rfl
  | cons x xs ih =>
      obtain ⟨he, hk⟩ := h i le_rfl (by simp)
      rw [List.length_cons] at h
      rw [weaveFrom, he, hk, ih fun j hj hlt => h j (by omega) (by omega)]
      rfl

theorem weaveFrom_of_dropped {i : Nat} {xs : List Text}
    (h : ∀ j, i ≤ j → j < i + xs.length → extra j = [] ∧ keep j = false) :
    weaveFrom extra keep i xs = [] := by
  induction xs generalizing i with
  | nil => rfl
  | cons x xs ih =>
      obtain ⟨he, hk⟩ := h i le_rfl (by simp)
      rw [List.length_cons] at h
      rw [weaveFrom, he, hk, ih fun j hj hlt => h j (by omega) (by omega)]
      rfl

/-- Extra lines at the start of kept lines only. -/
theorem weaveFrom_first {i : Nat} {x : Text} {xs : List Text} (hi : keep i = true)
    (h : ∀ j, i < j → j ≤ i + xs.length → extra j = [] ∧ keep j = true) :
    weaveFrom extra keep i (x :: xs) = extra i ++ x :: xs := by
  have hrest : weaveFrom extra keep (i + 1) xs = xs :=
    weaveFrom_of_kept fun j hj hlt => h j (by omega) (by omega)
  rw [weaveFrom, hi, hrest, if_pos rfl, List.append_assoc]
  rfl

theorem weaveFrom_last {i : Nat} {xs : List Text} (he : ∀ j, i < j → extra j = [])
    (hk : ∀ j, i ≤ j → keep j = true) :
    weaveFrom extra keep i xs ++ extra (i + xs.length) = extra i ++ xs := by
  cases xs with
  | nil => simp [weaveFrom]
  | cons x xs =>
      rw [weaveFrom_first (hk i le_rfl) fun j hj _ => ⟨he j hj, hk j (by omega)⟩,
        he (i + (x :: xs).length) (by simp), List.append_nil]

/-- Two places for extra lines, each with lines left out directly above it. -/
theorem weave_two_places {top gap₁ middle gap₂ bottom extra₁ extra₂ : List Text}
    (hmiddle : middle = [] → gap₂ = [])
    (hkeep : ∀ i, keep i = false ↔ top.length ≤ i ∧ i < top.length + gap₁.length ∨
      top.length + gap₁.length + middle.length ≤ i ∧
        i < top.length + gap₁.length + middle.length + gap₂.length)
    (hextra : ∀ i, extra i = (if i = top.length + gap₁.length then extra₁ else []) ++
      if i = top.length + gap₁.length + middle.length + gap₂.length then extra₂ else []) :
    weave extra keep (top ++ gap₁ ++ (middle ++ gap₂) ++ bottom) =
      top ++ extra₁ ++ middle ++ extra₂ ++ bottom := by
  have kept : ∀ i, (top.length ≤ i → top.length + gap₁.length ≤ i) →
      (top.length + gap₁.length + middle.length ≤ i →
        top.length + gap₁.length + middle.length + gap₂.length ≤ i) → keep i = true := by
    intro i h₁ h₂
    rw [← Bool.not_eq_false, hkeep]
    omega
  have none : ∀ i, i ≠ top.length + gap₁.length →
      i ≠ top.length + gap₁.length + middle.length + gap₂.length → extra i = [] := by
    intro i h₁ h₂
    rw [hextra, if_neg h₁, if_neg h₂, List.append_nil]
  have htop : weaveFrom extra keep 0 top = top :=
    weaveFrom_of_kept fun j _ hj => ⟨none j (by omega) (by omega), kept j (by omega) (by omega)⟩
  have hgap₁ : weaveFrom extra keep top.length gap₁ = [] := by
    apply weaveFrom_of_dropped
    exact fun j hj hlt => ⟨none j (by omega) (by omega), (hkeep j).mpr (.inl ⟨hj, hlt⟩)⟩
  have hlast :
      weaveFrom extra keep (top.length + gap₁.length + middle.length + gap₂.length) bottom ++
        extra (top.length + gap₁.length + middle.length + gap₂.length + bottom.length) =
      extra (top.length + gap₁.length + middle.length + gap₂.length) ++ bottom :=
    weaveFrom_last (fun j hj => none j (by omega) (by omega))
      fun j hj => kept j (by omega) (by omega)
  unfold weave
  simp only [weaveFrom_append, List.length_append, Nat.zero_add, ← Nat.add_assoc]
  rw [htop, hgap₁, List.append_nil, List.append_assoc _ _ (extra _), hlast]
  cases middle with
  | nil =>
      rw [hmiddle rfl]
      simp [weaveFrom, hextra, hmiddle rfl]
  | cons m ms =>
      have hlength : (m :: ms).length = ms.length + 1 := List.length_cons
      have hm : weaveFrom extra keep (top.length + gap₁.length) (m :: ms) = extra₁ ++ m :: ms := by
        rw [weaveFrom_first (kept _ (by omega) (by omega)) fun j hj hlt =>
          ⟨none j (by omega) (by omega), kept j (by omega) (by omega)⟩, hextra, if_pos rfl,
          if_neg (by omega), List.append_nil]
      have hgap₂ :
          weaveFrom extra keep (top.length + gap₁.length + (m :: ms).length) gap₂ = [] := by
        apply weaveFrom_of_dropped
        exact fun j hj hlt => ⟨none j (by omega) (by omega), (hkeep j).mpr (.inr (by omega))⟩
      rw [hm, hgap₂, hextra, if_neg (by omega), if_pos rfl]
      simp

end

/-- Line `i` is one of the blank lines directly above line `p`. -/
def inGap (lines : List Text) (p i : Nat) : Bool :=
  decide (i < p) && ((lines.take p).drop i).all isBlank

theorem inGap_iff (above below : List Text) {i : Nat} :
    inGap (above ++ below) above.length i = true ↔
      (dropEndWhile isBlank above).length ≤ i ∧ i < above.length := by
  obtain ⟨gap, hgap, hblank⟩ := exists_append_dropEndWhile isBlank above
  rw [inGap, List.take_left, Bool.and_eq_true, decide_eq_true_eq, and_comm]
  refine and_congr_left fun hi => ?_
  constructor
  · intro h
    by_contra hlt
    rcases dropEndWhile_eq_nil_or_concat isBlank above with he | ⟨init, last, he, hlast⟩
    · simp [he] at hlt
    · have hmem : last ∈ above.drop i := by
        rw [hgap, he, List.append_assoc, List.drop_append_of_le_length (by
          simp only [he, List.length_append, List.length_singleton] at hlt
          omega)]
        simp
      rw [List.all_eq_true.mp h _ hmem] at hlast
      cases hlast
  · intro h
    rw [hgap, List.drop_append, List.drop_eq_nil_of_le h, List.nil_append, List.all_eq_true]
    exact fun l hl => hblank l (List.mem_of_mem_drop hl)

theorem weave_close_gap (above below : List Text) :
    weave (fun _ => []) (fun i => !inGap (above ++ below) above.length i) (above ++ below) =
      dropEndWhile isBlank above ++ below := by
  obtain ⟨gap, hgap, -⟩ := exists_append_dropEndWhile isBlank above
  have hlength : (dropEndWhile isBlank above).length + gap.length = above.length := by
    rw [← List.length_append, ← hgap]
  have hkeep : ∀ i, (!inGap (above ++ below) above.length i) = false ↔
      (dropEndWhile isBlank above).length ≤ i ∧ i < above.length := by
    intro i
    rw [Bool.not_eq_false', inGap_iff]
  have hw : weave (fun _ => []) (fun i => !inGap (above ++ below) above.length i)
      (dropEndWhile isBlank above ++ gap ++ ([] ++ []) ++ below) =
        dropEndWhile isBlank above ++ [] ++ [] ++ [] ++ below :=
    weave_two_places (fun _ => rfl)
      (fun i => (hkeep i).trans (by simp only [List.length_nil]; omega)) (by simp)
  simp only [List.append_nil] at hw
  rwa [← hgap] at hw

end HostRouting
