import HostRouting.Document.Binding
import HostRouting.Proofs.Document.Visible

/-!
# How bindings are read

The reader of bindings stands outside of all sections of services or in one, and of such a section
only the indentation of its header matters to what a line does. A blank line does nothing. A visible
line no deeper than the header is read as if no section were there; a deeper one stays inside. So
rows that are deep, open no section and give no server leave the bindings as they are, wherever they
are put in, as long as a shallow line comes next: a reader in a shallow section passes over them,
and one in any other section has only left it earlier.
-/
namespace HostRouting
open Text

theorem eq_append_of_serviceName? {trimmed name : Text} (h : serviceName? trimmed = some name) :
    trimmed = name ++ [':'] := by
  unfold serviceName? at h
  split at h
  · rename_i cut hcut
    split_ifs at h
    obtain rfl := Option.some.inj h
    exact (List.isSuffixOf?_eq_some_iff_append_eq.mp hcut).symm
  · cases h

theorem serviceName?_append (name : Text) : serviceName? (name ++ [':']) =
    if name.isEmpty || reservedKeys.any (occursIn · (name ++ [':'])) then none else some name := by
  have hcut : [':'].isSuffixOf? (name ++ [':']) = some name :=
    List.isSuffixOf?_eq_some_iff_append_eq.mpr rfl
  rw [serviceName?, hcut]

namespace BindingState

variable {state : BindingState} {line : Text} {lines rows rest : List Text} {h : Nat}
  {b : ServiceBinding}

/-- The indentation of the header whose section the reader stands in. -/
def header? : BindingState → Option Nat
  | outside => none
  | inServices headerIndent => some headerIndent
  | inBody headerIndent _ _ => some headerIndent

theorem opening_of_ne (hl : trim line ≠ "services:".toList) : opening line = outside := if_neg hl

theorem opening_of_eq (hl : trim line = "services:".toList) :
    opening line = inServices (indentOf line) := if_pos hl

theorem header?_opening : (opening line).header? = some h ↔
    trim line = "services:".toList ∧ indentOf line = h := by
  by_cases hl : trim line = "services:".toList
  · rw [opening_of_eq hl]
    exact ⟨fun hs => ⟨hl, Option.some.inj hs⟩, fun hs => congrArg some hs.2⟩
  · rw [opening_of_ne hl]
    refine ⟨fun hs => ?_, fun hs => absurd hs.1 hl⟩
    cases hs

theorem header?_member (h : Nat) (trimmed : Text) : (member h trimmed).header? = some h := by
  unfold member
  split <;> rfl

theorem pending_member (h : Nat) (trimmed : Text) : (member h trimmed).pending = none := by
  unfold member
  split <;> rfl

theorem header?_deeper (trimmed : Text) (state : BindingState) :
    (deeper trimmed state).header? = state.header? := by
  cases state <;> rfl

theorem deeper_of_none (hl : serverUrl? line = none) : deeper line state = state := by
  cases state with
  | outside => rfl
  | inServices i => rfl
  | inBody i name target => simp [deeper, hl]

theorem eq_outside (hs : state.header? = none) : state = outside := by
  cases state with
  | outside => rfl
  | inServices i => cases hs
  | inBody i name target => cases hs

theorem step_inside (hs : state.header? = some h) (line : Text) :
    state.step line = inside h state line := by
  cases state with
  | outside => cases hs
  | inServices i =>
      cases hs
      rfl
  | inBody i name target =>
      cases hs
      rfl

theorem step_of_isBlank (state : BindingState) (hl : isBlank line = true) :
    state.step line = (state, none) := by
  cases hs : state.header? with
  | none =>
      have hne : trim line ≠ "services:".toList := by
        rw [(trim_eq_nil_iff line).mpr hl]
        decide
      rw [eq_outside hs]
      exact congrArg (·, none) (opening_of_ne hne)
  | some h =>
      rw [step_inside hs]
      exact if_pos hl

/-- A line that is no deeper than the header is read as outside. -/
theorem step_of_isShallow (hs : state.header? = some h) (hl : isShallow h line = true) :
    state.step line = (opening line, state.pending) := by
  simp only [isShallow, Bool.and_eq_true, Bool.not_eq_true', decide_eq_true_eq] at hl
  rw [step_inside hs, inside, if_neg (by simp [hl.1]), if_pos hl.2]

theorem step_of_member (hs : state.header? = some h) (hb : isBlank line = false)
    (hl : indentOf line = h + nestWidth) :
    state.step line = (member h (trim line), state.pending) := by
  have hdeep : ¬ indentOf line ≤ h := by
    rw [hl, nestWidth]
    omega
  rw [step_inside hs, inside, if_neg (by simp [hb]), if_neg hdeep, if_pos hl]

theorem step_of_deeper (hs : state.header? = some h) (hb : isBlank line = false)
    (hl : h < indentOf line) (hn : indentOf line ≠ h + nestWidth) :
    state.step line = (deeper (trim line) state, none) := by
  rw [step_inside hs, inside, if_neg (by simp [hb]), if_neg (not_le.mpr hl), if_neg hn]

/-- A line that does not end the section is a member of it, or belongs to a body, or says
nothing. -/
theorem step_cases (hs : state.header? = some h) (hl : isShallow h line = false) :
    state.step line = (state, none) ∨ state.step line = (member h (trim line), state.pending) ∨
      state.step line = (deeper (trim line) state, none) := by
  cases hb : isBlank line with
  | true => exact .inl (step_of_isBlank state hb)
  | false =>
      have hd : h < indentOf line := by simpa [isShallow, hb] using hl
      by_cases hn : indentOf line = h + nestWidth
      · exact .inr (.inl (step_of_member hs hb hn))
      · exact .inr (.inr (step_of_deeper hs hb hd hn))

theorem header?_step (hs : state.header? = some h) (hl : isShallow h line = false) :
    (state.step line).1.header? = some h := by
  rcases step_cases hs hl with hstep | hstep | hstep
  · rw [hstep, hs]
  · rw [hstep, header?_member]
  · rw [hstep, header?_deeper, hs]

/-- A line that no section keeps inside is read as outside. -/
theorem step_opening (hs : ∀ h, state.header? = some h → isShallow h line = true) :
    (state.step line).1 = opening line := by
  cases hh : state.header? with
  | none =>
      rw [eq_outside hh]
      rfl
  | some h => rw [step_of_isShallow hh (hs h hh)]

/-- The state after lines. -/
def after (state : BindingState) (lines : List Text) : BindingState :=
  lines.foldl (fun s l => (s.step l).1) state

/-- The bindings that lines complete, without the one that is pending after them. -/
def emitted : BindingState → List Text → List ServiceBinding
  | _, [] => []
  | state, line :: rest => (state.step line).2.toList ++ emitted (state.step line).1 rest

theorem after_cons (state : BindingState) (line : Text) (rest : List Text) :
    state.after (line :: rest) = (state.step line).1.after rest := rfl

theorem scan_append (state : BindingState) (xs ys : List Text) :
    state.scan (xs ++ ys) = state.emitted xs ++ (state.after xs).scan ys := by
  induction xs generalizing state with
  | nil => rfl
  | cons line rest ih =>
      rw [List.cons_append, scan, ih, ← List.append_assoc]
      rfl

theorem scan_of_isBlank (state : BindingState) (hl : ∀ l ∈ lines, isBlank l = true)
    (rest : List Text) : state.scan (lines ++ rest) = state.scan rest := by
  induction lines with
  | nil => rfl
  | cons line more ih =>
      rw [List.cons_append, scan, step_of_isBlank state (hl line List.mem_cons_self)]
      exact ih fun l hmem => hl l (List.mem_cons_of_mem _ hmem)

/-- Blank lines above a place decide nothing there. -/
theorem scan_dropEndWhile_append (state : BindingState) (lines rest : List Text) :
    state.scan (dropEndWhile isBlank lines ++ rest) = state.scan (lines ++ rest) := by
  obtain ⟨gap, hgap, hblank⟩ := exists_append_dropEndWhile isBlank lines
  conv_rhs => rw [hgap, List.append_assoc, scan_append, scan_of_isBlank _ hblank]
  rw [scan_append]

theorem mem_step (h : b ∈ (state.step line).2) : state.pending = some b := by
  cases hs : state.header? with
  | none =>
      rw [eq_outside hs] at h
      cases h
  | some i =>
      cases hl : isShallow i line with
      | true =>
          rw [step_of_isShallow hs hl] at h
          exact h
      | false =>
          rcases step_cases hs hl with hstep | hstep | hstep
          · rw [hstep] at h
            cases h
          · rw [hstep] at h
            exact h
          · rw [hstep] at h
            cases h

/-- The reader comes into a body only over the line of its name. -/
theorem body_of_step {i : Nat} {name : Text} {t : Option Text}
    (h : (state.step line).1 = inBody i name t) :
    (∃ i t, state = inBody i name t) ∨ trim line = name ++ [':'] := by
  have hopening : opening line ≠ inBody i name t := by
    unfold opening
    split_ifs <;> exact fun hc => by cases hc
  cases hs : state.header? with
  | none =>
      rw [eq_outside hs] at h
      exact absurd h hopening
  | some j =>
      cases hl : isShallow j line with
      | true =>
          rw [step_of_isShallow hs hl] at h
          exact absurd h hopening
      | false =>
          rcases step_cases hs hl with hstep | hstep | hstep
          · rw [hstep] at h
            exact .inl ⟨i, t, h⟩
          · rw [hstep] at h
            dsimp only [member] at h
            split at h
            · rename_i name' hname
              cases h
              exact .inr (eq_append_of_serviceName? hname)
            · cases h
          · rw [hstep] at h
            cases state with
            | outside => cases hs
            | inServices k => cases h
            | inBody k name' t' =>
                cases h
                exact .inl ⟨_, _, rfl⟩

theorem exists_body_of_pending (h : state.pending = some b) : ∃ i t, state = inBody i b.name t := by
  cases state with
  | outside => cases h
  | inServices i => cases h
  | inBody i name t =>
      cases t with
      | none => cases h
      | some t =>
          cases h
          exact ⟨i, some t, rfl⟩

/-- A binding is read off the body that the reader is in, or off a line that names it. -/
theorem exists_line_of_mem_scan (h : b ∈ state.scan lines) :
    (∃ i t, state = inBody i b.name t) ∨ ∃ l ∈ lines, trim l = b.name ++ [':'] := by
  induction lines generalizing state with
  | nil => exact .inl (exists_body_of_pending (by simpa [scan] using h))
  | cons line rest ih =>
      rcases List.mem_append.mp h with hsaid | hlater
      · exact .inl (exists_body_of_pending (mem_step (by simpa using hsaid)))
      · rcases ih hlater with ⟨i, t, hbody⟩ | ⟨l, hl, htrim⟩
        · rcases body_of_step hbody with hbefore | htrim
          · exact .inl hbefore
          · exact .inr ⟨line, List.mem_cons_self, htrim⟩
        · exact .inr ⟨l, List.mem_cons_of_mem _ hl, htrim⟩

/-- The reader stands outside, or in a section whose header is indented two or more. -/
def Wide (state : BindingState) : Prop := ∀ h, state.header? = some h → 2 ≤ h

theorem wide_outside : outside.Wide := fun _ hs => nomatch hs

/-- A wide reader has nothing more to say than what is pending when a shallow line comes. -/
theorem Wide.scan (hs : state.Wide) (hrest : ∀ l ∈ rest.head?, isShallow 2 l = true) :
    state.scan rest = state.pending.toList ++ outside.scan rest := by
  cases hh : state.header? with
  | none =>
      rw [eq_outside hh]
      rfl
  | some h =>
      cases rest with
      | nil => exact (List.append_nil _).symm
      | cons line more =>
          have hl : isShallow h line = true := isShallow_mono (hs h hh) (hrest line rfl)
          rw [BindingState.scan, step_of_isShallow hh hl]
          rfl

/-- The line neither opens a section of services nor gives a server. -/
structure Silent (line : Text) : Prop where
  closed : trim line ≠ "services:".toList
  serverless : serverUrl? (trim line) = none

/-- A silent row that is blank or as deep as the members of an inner section. -/
structure Quiet (row : Text) : Prop where
  silent : Silent row
  deep : isShallow 3 row = false

/-- A reader in a section of a shallow header does not notice a quiet row. -/
theorem Quiet.step (hq : Quiet line) (hs : state.header? = some h) (hh : h < 2) :
    state.step line = (state, none) := by
  cases hb : isBlank line with
  | true => exact step_of_isBlank state hb
  | false =>
      have hi : 3 < indentOf line := by simpa [isShallow, hb] using hq.deep
      have hn : indentOf line ≠ h + nestWidth := by
        rw [nestWidth]
        omega
      rw [step_of_deeper hs hb (by omega) hn, deeper_of_none hq.silent.serverless]

/-- A wide reader stays wide over a quiet row, and what was pending is said by then or still is. -/
theorem Wide.step (hs : state.Wide) (hq : Quiet line) : (state.step line).1.Wide ∧
    (state.step line).2.toList ++ (state.step line).1.pending.toList = state.pending.toList := by
  have houtside : ∀ s : BindingState, s.pending = none ∧ s.Wide → s.Wide ∧
      state.pending.toList ++ s.pending.toList = state.pending.toList := by
    intro s h
    exact ⟨h.2, by rw [h.1]; exact List.append_nil _⟩
  cases hh : state.header? with
  | none =>
      have hstep : outside.step line = (outside, none) :=
        congrArg (·, none) (opening_of_ne hq.silent.closed)
      rw [eq_outside hh, hstep]
      exact ⟨wide_outside, rfl⟩
  | some h =>
      cases hl : isShallow h line with
      | true =>
          rw [step_of_isShallow hh hl, opening_of_ne hq.silent.closed]
          exact houtside _ ⟨rfl, wide_outside⟩
      | false =>
          rcases step_cases hh hl with hstep | hstep | hstep
          · rw [hstep]
            exact ⟨hs, rfl⟩
          · rw [hstep]
            refine houtside _ ⟨pending_member _ _, fun i hi => ?_⟩
            rw [header?_member] at hi
            cases hi
            exact hs h hh
          · rw [hstep, deeper_of_none hq.silent.serverless]
            exact ⟨hs, rfl⟩

theorem Wide.scan_quiet (hs : state.Wide) (hq : ∀ row ∈ rows, Quiet row)
    (hrest : ∀ l ∈ rest.head?, isShallow 2 l = true) :
    state.scan (rows ++ rest) = state.pending.toList ++ outside.scan rest := by
  induction rows generalizing state with
  | nil => exact hs.scan hrest
  | cons row more ih =>
      obtain ⟨hwide, hsaid⟩ := hs.step (hq row List.mem_cons_self)
      rw [List.cons_append, BindingState.scan,
        ih hwide fun r hr => hq r (List.mem_cons_of_mem _ hr), ← List.append_assoc, hsaid]

theorem scan_quiet_of_narrow (hs : state.header? = some h) (hh : h < 2)
    (hq : ∀ row ∈ rows, Quiet row) (rest : List Text) :
    state.scan (rows ++ rest) = state.scan rest := by
  induction rows with
  | nil => rfl
  | cons row more ih =>
      rw [List.cons_append, BindingState.scan, (hq row List.mem_cons_self).step hs hh]
      exact ih fun r hr => hq r (List.mem_cons_of_mem _ hr)

/-- Quiet rows above a shallow line change no binding, wherever the reader stands. -/
theorem scan_quiet (state : BindingState) (hq : ∀ row ∈ rows, Quiet row)
    (hrest : ∀ l ∈ rest.head?, isShallow 2 l = true) :
    state.scan (rows ++ rest) = state.scan rest := by
  by_cases hs : state.Wide
  · rw [hs.scan_quiet hq hrest, hs.scan hrest]
  · simp only [Wide, not_forall, not_le] at hs
    obtain ⟨h, hh, hlt⟩ := hs
    exact scan_quiet_of_narrow hh hlt hq rest

end BindingState

/-- The lines end in a section of services whose header is indented less than two: everything
visible below that header is deeper than it. -/
def EndsInOuterServices (lines : List Text) : Prop :=
  ∃ above line below, lines = above ++ line :: below ∧ trim line = "services:".toList ∧
    indentOf line < 2 ∧ ∀ l ∈ below, isShallow (indentOf line) l = false

section
open BindingState

variable {state : BindingState} {line : Text} {lines : List Text}

theorem endsInOuterServices_nil : ¬ EndsInOuterServices [] := by
  intro h
  obtain ⟨above, line, below, hlines, -⟩ := h
  cases above <;> cases hlines

theorem endsInOuterServices_cons : EndsInOuterServices (line :: lines) ↔
    (trim line = "services:".toList ∧ indentOf line < 2 ∧
      ∀ l ∈ lines, isShallow (indentOf line) l = false) ∨ EndsInOuterServices lines := by
  constructor
  · intro h
    obtain ⟨above, header, below, hlines, hheader⟩ := h
    cases above with
    | nil =>
        obtain ⟨rfl, rfl⟩ := List.cons.inj hlines
        exact .inl hheader
    | cons first above =>
        obtain ⟨rfl, rfl⟩ := List.cons.inj hlines
        exact .inr ⟨above, header, below, rfl, hheader⟩
  · intro h
    rcases h with h | ⟨above, header, below, rfl, hheader⟩
    · exact ⟨[], line, lines, rfl, h⟩
    · exact ⟨line :: above, header, below, rfl, hheader⟩

theorem isShallow_of_trim (hl : trim line = "services:".toList) :
    isShallow (indentOf line) line = true := by
  have hb : isBlank line = false := by
    rw [Bool.eq_false_iff, ne_eq, ← trim_eq_nil_iff, hl]
    decide
  simp [isShallow, hb]

theorem forall_isShallow_filter {i n : Nat} (hi : i ≤ n) :
    (∀ l ∈ lines.filter (isShallow n), isShallow i l = false) ↔
      ∀ l ∈ lines, isShallow i l = false := by
  refine ⟨fun h l hl => ?_, fun h l hl => h l (List.mem_of_mem_filter hl)⟩
  cases hn : isShallow n l with
  | true => exact h l (List.mem_filter.mpr ⟨hl, hn⟩)
  | false =>
      rw [Bool.eq_false_iff]
      intro hs
      rw [isShallow_mono hi hs] at hn
      cases hn

/-- Deep lines do not matter to it, nor do blank ones. -/
theorem endsInOuterServices_filter (lines : List Text) :
    EndsInOuterServices (lines.filter (isShallow 2)) ↔ EndsInOuterServices lines := by
  induction lines with
  | nil => rfl
  | cons line rest ih =>
      cases hl : isShallow 2 line with
      | true =>
          rw [List.filter_cons_of_pos hl, endsInOuterServices_cons, endsInOuterServices_cons, ih]
          refine or_congr_left (and_congr_right fun _ => and_congr_right fun hi => ?_)
          exact forall_isShallow_filter hi.le
      | false =>
          rw [List.filter_cons_of_neg (by simp [hl]), endsInOuterServices_cons, ih]
          refine (or_iff_right fun h => ?_).symm
          rw [isShallow_mono h.2.1.le (isShallow_of_trim h.1)] at hl
          cases hl

/-- The reader is in a section of a header indented less than two exactly when the lines end in one,
or when it was in one that they do not leave. An outer header in the section of another keeps the
reader where it was. -/
theorem narrow_after_iff : (∃ h, (state.after lines).header? = some h ∧ h < 2) ↔
    (∃ h, state.header? = some h ∧ h < 2 ∧ ∀ l ∈ lines, isShallow h l = false) ∨
      EndsInOuterServices lines := by
  induction lines generalizing state with
  | nil => simp [after, endsInOuterServices_nil]
  | cons line rest ih =>
      rw [after_cons, ih, endsInOuterServices_cons, ← or_assoc]
      refine or_congr_left ?_
      by_cases hs : ∃ h, state.header? = some h ∧ isShallow h line = false
      · obtain ⟨h, hh, hl⟩ := hs
        rw [header?_step hh hl, hh]
        simp only [Option.some.injEq, exists_eq_left', List.forall_mem_cons]
        constructor
        · intro hkept
          exact .inl ⟨hkept.1, hl, hkept.2⟩
        · rintro (hkept | ⟨htrim, hi, hrest⟩)
          · exact ⟨hkept.1, hkept.2.2⟩
          · have hlt : h < indentOf line := by
              by_contra hle
              rw [isShallow_mono (not_lt.mp hle) (isShallow_of_trim htrim)] at hl
              cases hl
            refine ⟨hlt.trans hi, fun l hmem => ?_⟩
            rw [Bool.eq_false_iff]
            intro hshallow
            have hinner := hrest l hmem
            rw [isShallow_mono hlt.le hshallow] at hinner
            cases hinner
      · simp only [not_exists, not_and, Bool.not_eq_false] at hs
        rw [step_opening hs]
        simp only [header?_opening]
        constructor
        · rintro ⟨h, ⟨htrim, rfl⟩, hi, hrest⟩
          exact .inr ⟨htrim, hi, hrest⟩
        · rintro (⟨h, hh, -, hall⟩ | ⟨htrim, hi, hrest⟩)
          · have hleft := hall line List.mem_cons_self
            rw [hs h hh] at hleft
            cases hleft
          · exact ⟨_, ⟨htrim, rfl⟩, hi, hrest⟩

/-- A reader from outside is wide after all lines that do not end in an outer section. -/
theorem wide_after (h : ¬ EndsInOuterServices lines) : (outside.after lines).Wide := by
  intro i hi
  by_contra hlt
  rcases narrow_after_iff.mp ⟨i, hi, not_le.mp hlt⟩ with ⟨j, hj, -⟩ | hends
  · cases hj
  · exact h hends

instance : DecidablePred EndsInOuterServices := fun lines =>
  decidable_of_iff ((outside.after lines).header?.any (· < 2) = true) <| by
    rw [Option.any_eq_true]
    simp only [decide_eq_true_eq]
    rw [narrow_after_iff]
    exact or_iff_right fun h => nomatch h.choose_spec.1

end
end HostRouting
