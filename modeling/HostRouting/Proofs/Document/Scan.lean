import HostRouting.Document.Removal
import HostRouting.Proofs.Document.Rendering

/-!
# What a removal keeps

Outside of blocks the scan keeps every line that opens none and only follows the
headers. A block goes with all its rows, and the state behind it is the one in front of it, as
soon as the next line is no deeper than a member. Blank lines never change the state,
so the visible lines that are kept depend on the visible lines alone.
-/
namespace HostRouting
open Text

variable {policy : MatchPolicy} {e : Entity} {state : ScanState} {line : Text}
  {lines rows rest : List Text}

namespace ScanState

/-- The state inside a block that was opened in the given one. -/
def blocked (policy : MatchPolicy) (e : Entity) (state : ScanState) : ScanState :=
  .inBlock (policy.tag e) state.sectionName state.memberIndent

/-- The scan stands in no block, in a section at a depth that headers can have. -/
structure Regular (state : ScanState) : Prop where
  settled : state.resume = state
  lower : 2 ≤ state.memberIndent
  upper : state.memberIndent ≤ 4

theorem regular_outside : Regular .outside := ⟨rfl, by decide, by decide⟩

theorem resume_blocked (h : state.resume = state) : (state.blocked policy e).resume = state := by
  cases state with
  | outside => rfl
  | inSection name indent => rfl
  | inBlock owner enclosing indent => cases enclosing <;> simp [resume] at h

theorem enter_of_not_header (h : isHeaderLine line = false) : state.enter line = state := by
  simp [enter, h]

theorem isHeaderLine_of_isBlank (h : isBlank line = true) : isHeaderLine line = false := by
  simp [isHeaderLine, (trim_eq_nil_iff line).2 h]

theorem isHeaderLine_of_not_isShallow (h : isShallow 2 line = false) :
    isHeaderLine line = false := by
  cases hb : isBlank line with
  | true => exact isHeaderLine_of_isBlank hb
  | false =>
      have hi : ¬ indentOf line ≤ 2 := by simpa [isShallow, hb] using h
      have : decide (indentOf line ≤ maxHeaderIndent) = false := decide_eq_false hi
      simp [isHeaderLine, this]

theorem Regular.enter (h : Regular state) (line : Text) : Regular (state.enter line) := by
  cases hl : isHeaderLine line with
  | false => rwa [enter_of_not_header hl]
  | true =>
      have hi : indentOf line ≤ maxHeaderIndent := by
        simp only [isHeaderLine, Bool.and_eq_true, decide_eq_true_eq] at hl
        exact hl.1.1.1
      have hm : (state.enter line).memberIndent = indentOf line + nestWidth := by
        simp [ScanState.enter, hl, memberIndent]
      refine ⟨by simp [ScanState.enter, hl, resume], ?_, ?_⟩
      · rw [hm]
        exact Nat.le_add_left _ _
      · rw [hm]
        exact Nat.add_le_add_right hi _

/-- The state after lines that are all kept. -/
def enterAll (state : ScanState) (lines : List Text) : ScanState := lines.foldl enter state

theorem enterAll_append (xs ys : List Text) :
    state.enterAll (xs ++ ys) = (state.enterAll xs).enterAll ys := List.foldl_append

theorem Regular.enterAll (h : Regular state) (lines : List Text) :
    Regular (state.enterAll lines) := by
  induction lines generalizing state with
  | nil => exact h
  | cons line rest ih => exact ih (h.enter line)

/-- Lines below the headers leave the state as it is. -/
theorem enterAll_of_deep (h : ∀ l ∈ lines, isShallow 2 l = false) :
    state.enterAll lines = state := by
  induction lines with
  | nil => rfl
  | cons line rest ih =>
      rw [enterAll, List.foldl_cons,
        enter_of_not_header (isHeaderLine_of_not_isShallow (h line List.mem_cons_self))]
      exact ih fun l hl => h l (List.mem_cons_of_mem _ hl)

theorem step_start (h : policy.startsBlock e line = true) :
    state.step policy e line = (state.blocked policy e, false) := if_pos h

theorem step_free (hs : state.resume = state) (h : policy.startsBlock e line = false) :
    state.step policy e line = (state.enter line, true) := by
  unfold step
  rw [if_neg (by simp [h])]
  cases state with
  | outside => rfl
  | inSection name indent => rfl
  | inBlock owner enclosing indent => cases enclosing <;> simp [resume] at hs

theorem step_blocked_deep (h : policy.startsBlock e line = false)
    (hd : isBlank line = true ∨ state.memberIndent < indentOf line) :
    (state.blocked policy e).step policy e line = (state.blocked policy e, false) := by
  unfold step blocked
  rw [if_neg (by simp [h])]
  exact if_pos (by simpa only [Bool.or_eq_true, decide_eq_true_eq] using hd)

/-- A visible line no deeper than a member ends the block and is read as if it were not there. -/
theorem step_blocked_stop (hs : state.resume = state) (h : policy.startsBlock e line = false)
    (hl : isShallow state.memberIndent line = true) :
    (state.blocked policy e).step policy e line = (state.enter line, true) := by
  simp only [isShallow, Bool.and_eq_true, Bool.not_eq_true', decide_eq_true_eq] at hl
  have hn : ¬ (isBlank line || decide (state.memberIndent < indentOf line)) = true := by
    simp [hl.1, hl.2]
  have hr : (state.blocked policy e).resume = state := resume_blocked hs
  unfold step
  rw [if_neg (by simp [h])]
  refine (if_neg hn).trans ?_
  rw [hr]

end ScanState
open ScanState

theorem keptLines_cons_of_kept {next : ScanState}
    (h : state.step policy e line = (next, true)) :
    keptLines policy e state (line :: rest) = line :: keptLines policy e next rest := by
  simp [keptLines, h]

theorem keptLines_cons_of_dropped {next : ScanState}
    (h : state.step policy e line = (next, false)) :
    keptLines policy e state (line :: rest) = keptLines policy e next rest := by
  simp [keptLines, h]

/-- Outside of blocks, lines that open none are all kept. -/
theorem keptLines_free_append (hs : Regular state)
    (h : ∀ l ∈ lines, policy.startsBlock e l = false) (rest : List Text) :
    keptLines policy e state (lines ++ rest) =
      lines ++ keptLines policy e (state.enterAll lines) rest := by
  induction lines generalizing state with
  | nil => rfl
  | cons line more ih =>
      have hfree := h line List.mem_cons_self
      rw [List.cons_append, keptLines_cons_of_kept (step_free hs.settled hfree),
        ih (hs.enter line) fun l hl => h l (List.mem_cons_of_mem _ hl)]
      rfl

theorem keptLines_free (hs : Regular state) (h : ∀ l ∈ lines, policy.startsBlock e l = false) :
    keptLines policy e state lines = lines := by
  have := keptLines_free_append hs h []
  rw [List.append_nil] at this
  rw [this]
  exact List.append_nil _

theorem keptLines_blocked_append (hs : Regular state)
    (h : ∀ row ∈ rows, policy.startsBlock e row = true ∨ isBlank row = true ∨ 4 < indentOf row)
    (rest : List Text) :
    keptLines policy e (state.blocked policy e) (rows ++ rest) =
      keptLines policy e (state.blocked policy e) rest := by
  induction rows with
  | nil => rfl
  | cons row more ih =>
      have hstep :
          (state.blocked policy e).step policy e row = (state.blocked policy e, false) := by
        cases hb : policy.startsBlock e row with
        | true => exact step_start hb
        | false =>
            apply step_blocked_deep hb
            rcases h row List.mem_cons_self with hr | hr | hr
            · rw [hb] at hr
              cases hr
            · exact .inl hr
            · exact .inr (Nat.lt_of_le_of_lt hs.upper hr)
      rw [List.cons_append, keptLines_cons_of_dropped hstep,
        ih fun r hr => h r (List.mem_cons_of_mem _ hr)]

/-- From here on a scan keeps the same lines whether or not a block has just gone. -/
def Resumes (policy : MatchPolicy) (e : Entity) (state : ScanState) (rest : List Text) : Prop :=
  keptLines policy e (state.blocked policy e) rest = keptLines policy e state rest

theorem resumes_of_shallow (hs : Regular state)
    (h : ∀ l ∈ rest.head?, policy.startsBlock e l = false ∧
      isShallow state.memberIndent l = true) : Resumes policy e state rest := by
  cases rest with
  | nil => rfl
  | cons line more =>
      obtain ⟨hf, hl⟩ := h line rfl
      rw [Resumes, keptLines_cons_of_kept (step_blocked_stop hs.settled hf hl),
        keptLines_cons_of_kept (step_free hs.settled hf)]

theorem resumes_of_shallow_two (hs : Regular state)
    (hfree : ∀ l ∈ rest.head?, policy.startsBlock e l = false)
    (h : ∀ l ∈ rest.head?, isShallow 2 l = true) : Resumes policy e state rest :=
  resumes_of_shallow hs fun l hl => ⟨hfree l hl, isShallow_mono hs.lower (h l hl)⟩

/-- A block goes with all its rows. -/
theorem keptLines_owned_append (hs : Regular state) (h : OwnedRows policy e rows)
    (rest : List Text) : keptLines policy e state (rows ++ rest) =
      keptLines policy e (state.blocked policy e) rest := by
  obtain ⟨row, hr, hstart⟩ := h.first
  obtain ⟨more, rfl⟩ := List.head?_eq_some_iff.mp hr
  rw [List.cons_append, keptLines_cons_of_dropped (step_start hstart)]
  exact keptLines_blocked_append hs (fun r hr => h.rest r (List.mem_cons_of_mem _ hr)) rest

theorem resumes_owned_append (hs : Regular state) (h : OwnedRows policy e rows)
    (rest : List Text) : Resumes policy e state (rows ++ rest) := by
  rw [Resumes, keptLines_owned_append hs h, keptLines_blocked_append hs h.rest]

theorem keptLines_block (hs : Regular state) (h : OwnedRows policy e rows)
    (hr : Resumes policy e state rest) : keptLines policy e state (rows ++ rest) =
      keptLines policy e state rest := by
  rw [keptLines_owned_append hs h, hr]

theorem mem_of_mem_keptLines (h : line ∈ keptLines policy e state lines) : line ∈ lines := by
  induction lines generalizing state with
  | nil => cases h
  | cons first more ih =>
      rw [keptLines] at h
      split_ifs at h
      · rcases List.mem_cons.mp h with rfl | h
        · exact List.mem_cons_self
        · exact List.mem_cons_of_mem _ (ih h)
      · exact List.mem_cons_of_mem _ (ih h)

theorem startsBlock_of_mem_keptLines (h : line ∈ keptLines policy e state lines) :
    policy.startsBlock e line = false := by
  induction lines generalizing state with
  | nil => simp [keptLines] at h
  | cons first more ih =>
      cases hb : policy.startsBlock e first with
      | true =>
          rw [keptLines_cons_of_dropped (step_start hb)] at h
          exact ih h
      | false =>
          obtain ⟨⟨next, keep⟩, hstep⟩ : ∃ r, state.step policy e first = r := ⟨_, rfl⟩
          cases keep with
          | true =>
              rw [keptLines_cons_of_kept hstep] at h
              rcases List.mem_cons.mp h with rfl | h
              · exact hb
              · exact ih h
          | false =>
              rw [keptLines_cons_of_dropped hstep] at h
              exact ih h

end HostRouting
