import HostRouting.Proofs.Document.Placement
import HostRouting.Proofs.Document.Scan

/-!
# Edits up to blank lines

Blank lines decide nothing: they are no headers, close no section, hold no marker and do not
change the state of a scan. So the visible lines of an edited document depend on
the visible lines alone, and a cut of the visible lines says where a block goes.
-/
namespace HostRouting
open Text SectionHeader

/-- The lines that are not blank. -/
def visible (lines : List Text) : List Text := lines.filter (!isBlank ·)

section
variable {policy : MatchPolicy} {e : Entity} {line : Text} {lines : List Text}

@[simp] theorem visible_nil : visible [] = [] := rfl

@[simp] theorem visible_append (xs ys : List Text) :
    visible (xs ++ ys) = visible xs ++ visible ys := List.filter_append ..

theorem visible_cons_of_blank (h : isBlank line = true) (rest : List Text) :
    visible (line :: rest) = visible rest := List.filter_cons_of_neg (by simp [h])

theorem visible_cons_of_not_blank (h : isBlank line = false) (rest : List Text) :
    visible (line :: rest) = line :: visible rest := List.filter_cons_of_pos (by simp [h])

theorem mem_visible : line ∈ visible lines ↔ line ∈ lines ∧ isBlank line = false := by
  simp [visible, List.mem_filter]

theorem visible_eq_nil (h : ∀ l ∈ lines, isBlank l = true) : visible lines = [] := by
  rw [visible, List.filter_eq_nil_iff]
  exact fun l hl => by simp [h l hl]

theorem visible_flatMap {α : Type} (f : α → List Text) (xs : List α) :
    visible (xs.flatMap f) = xs.flatMap fun x => visible (f x) := List.filter_flatMap ..

theorem visible_dropEndWhile (lines : List Text) :
    visible (dropEndWhile isBlank lines) = visible lines := by
  obtain ⟨gap, hgap, hblank⟩ := exists_append_dropEndWhile isBlank lines
  conv_rhs => rw [hgap, visible_append, visible_eq_nil hblank, List.append_nil]

theorem filter_isShallow_visible (n : Nat) (lines : List Text) :
    (visible lines).filter (isShallow n) = lines.filter (isShallow n) := by
  rw [visible, List.filter_filter]
  refine List.filter_congr fun l _ => ?_
  cases hl : isBlank l <;> simp [isShallow, hl]

theorem visible_dropWhile (lines : List Text) :
    visible (lines.dropWhile isBlank) = visible lines := by
  conv_rhs => rw [← List.takeWhile_append_dropWhile (p := isBlank) (l := lines), visible_append,
    visible_eq_nil (fun l hl => List.mem_takeWhile_imp hl), List.nil_append]

theorem visible_trimBlankEdges (d : Document) :
    visible d.trimBlankEdges.lines = visible d.lines := by
  rw [Document.trimBlankEdges, visible_dropEndWhile, visible_dropWhile]

theorem Document.contains_iff {d : Document} {needle : Text} :
    d.contains needle = true ↔ ∃ l ∈ d.lines, needle <:+: l := by
  simp only [Document.contains, List.any_eq_true, occursIn_iff_isInfix]

theorem contains_marker_iff (e : Entity) (d : Document) :
    d.contains e.marker = true ↔ ∃ l ∈ visible d.lines, e.marker <:+: l := by
  rw [Document.contains_iff]
  constructor
  · rintro ⟨l, hl, hm⟩
    exact ⟨l, mem_visible.mpr ⟨hl, Entity.not_isBlank_of_marker_isInfix hm⟩, hm⟩
  · rintro ⟨l, hl, hm⟩
    exact ⟨l, (mem_visible.mp hl).1, hm⟩

/-- A blank line leaves a scan in its state, in a block or outside. -/
theorem ScanState.step_of_isBlank (state : ScanState) (h : isBlank line = true) :
    (state.step policy e line).1 = state := by
  have henter : ∀ s : ScanState, s.enter line = s :=
    fun s => enter_of_not_header (isHeaderLine_of_isBlank h)
  unfold step
  rw [if_neg (by simp [startsBlock_of_isBlank h])]
  cases state with
  | outside => exact henter _
  | inSection name indent => exact henter _
  | inBlock owner enclosing indent =>
      dsimp only
      rw [if_pos (by simp [h])]

theorem visible_keptLines (state : ScanState) (lines : List Text) :
    visible (keptLines policy e state lines) = keptLines policy e state (visible lines) := by
  induction lines generalizing state with
  | nil => rfl
  | cons line rest ih =>
      obtain ⟨⟨next, keep⟩, hstep⟩ : ∃ r, state.step policy e line = r := ⟨_, rfl⟩
      cases hb : isBlank line with
      | true =>
          obtain rfl : next = state := by
            have hstate : (state.step policy e line).1 = state := state.step_of_isBlank hb
            rwa [hstep] at hstate
          rw [visible_cons_of_blank hb]
          cases keep with
          | true => rw [keptLines_cons_of_kept hstep, visible_cons_of_blank hb, ih]
          | false => rw [keptLines_cons_of_dropped hstep, ih]
      | false =>
          rw [visible_cons_of_not_blank hb]
          cases keep with
          | true =>
              rw [keptLines_cons_of_kept hstep, keptLines_cons_of_kept hstep,
                visible_cons_of_not_blank hb, ih]
          | false => rw [keptLines_cons_of_dropped hstep, keptLines_cons_of_dropped hstep, ih]

theorem visible_removeHost (policy : MatchPolicy) (e : Entity) (d : Document) :
    visible (d.removeHost policy e).lines = keptLines policy e .outside (visible d.lines) := by
  rw [Document.removeHost, visible_trimBlankEdges, visible_keptLines]

theorem ScanState.enterAll_visible (state : ScanState) (lines : List Text) :
    state.enterAll (visible lines) = state.enterAll lines := by
  induction lines generalizing state with
  | nil => rfl
  | cons line rest ih =>
      cases hb : isBlank line with
      | true =>
          rw [visible_cons_of_blank hb, ih, enterAll, enterAll, List.foldl_cons,
            enter_of_not_header (isHeaderLine_of_isBlank hb)]
      | false =>
          rw [visible_cons_of_not_blank hb]
          exact ih _

/-- The rows of a block without its blank ones go together as the block does. -/
theorem OwnedRows.visible {rows : List Text} (h : OwnedRows policy e rows) :
    OwnedRows policy e (visible rows) where
  first := by
    obtain ⟨row, hr, hs⟩ := h.first
    obtain ⟨rest, rfl⟩ := List.head?_eq_some_iff.mp hr
    rw [visible_cons_of_not_blank (not_isBlank_of_startsBlock hs)]
    exact ⟨row, rfl, hs⟩
  rest := fun row hr => h.rest row (mem_visible.mp hr).1

end

section
variable {opens closes : Text → Bool} {above below lines : List Text}

/-- Lines that neither open nor close may be left out of a reading. -/
theorem Phase.read_filter {p : Text → Bool}
    (h : ∀ l, p l = false → opens l = false ∧ closes l = false) (phase : Phase)
    (lines : List Text) :
    Phase.read opens closes phase (lines.filter p) = Phase.read opens closes phase lines := by
  induction lines generalizing phase with
  | nil => rfl
  | cons line rest ih =>
      cases hp : p line with
      | false =>
          have hn : Neutral opens closes [line] := by
            intro l hl
            rw [List.mem_singleton.mp hl]
            exact h line hp
          have hline := Phase.read_neutral phase hn
          rw [List.filter_cons_of_neg (by simp [hp]), ih, Phase.read_cons]
          exact congrArg (Phase.read opens closes · rest) hline.symm
      | true => rw [List.filter_cons_of_pos hp, Phase.read_cons, Phase.read_cons, ih]

theorem Cut.filter {p : Text → Bool} (h : ∀ l, p l = false → opens l = false ∧ closes l = false)
    (hc : Cut opens closes above below) : Cut opens closes (above.filter p) (below.filter p) where
  inside := by
    rw [Phase.read_filter h]
    exact hc.inside
  closed := by
    cases below with
    | nil => simp
    | cons line rest =>
        have hl : closes line = true := hc.closed line rfl
        have hp : p line = true := by
          rw [← Bool.not_eq_false]
          intro hp
          rw [(h line hp).2] at hl
          cases hl
        rw [List.filter_cons_of_pos hp]
        simpa using hl

theorem Cut.visible (h : ∀ l, isBlank l = true → opens l = false ∧ closes l = false)
    (hc : Cut opens closes above below) : Cut opens closes (visible above) (visible below) :=
  hc.filter fun l hl => h l (by simpa using hl)

end

namespace Document

variable {d d' : Document} {e : Entity} {policy : MatchPolicy} {above below : List Text}

theorem RouterCut.visible (h : RouterCut above below) :
    RouterCut (visible above) (visible below) := by
  refine Cut.visible (fun l hb => ?_) h
  exact neutral_of_isBlank (by decide) (fun _ h => isShallow_of_closesRouters h) hb

theorem SectionCut.visible {h : SectionHeader} (hh : h.indent ≤ 2) (hc : SectionCut h above below) :
    SectionCut h (visible above) (visible below) := by
  refine Cut.visible (fun l hb => ?_) hc
  exact neutral_of_isBlank hh (fun _ h => isShallow_mono hh h) hb

theorem SectionCut.filter {h : SectionHeader} (hh : h.indent ≤ 2) (hc : SectionCut h above below) :
    SectionCut h (above.filter (isShallow 2)) (below.filter (isShallow 2)) := by
  refine Cut.filter (fun l hl => ?_) hc
  have hdeep : Neutral h.isOn (isShallow h.indent) [l] :=
    neutral_of_deep hh (fun _ h => isShallow_mono hh h) (by simpa using hl)
  exact hdeep l List.mem_cons_self

/-- A header is found exactly when a visible line is one. -/
theorem exists_findHeader?_iff_visible {h : SectionHeader} :
    (∃ n, d.findHeader? h 0 = some n) ↔ ∃ l ∈ visible d.lines, h.isOn l = true := by
  rw [exists_findHeader?_iff]
  constructor
  · intro hfound
    obtain ⟨l, hl, ho⟩ := hfound
    exact ⟨l, mem_visible.mpr ⟨hl, isBlank_of_isOn ho⟩, ho⟩
  · intro hfound
    obtain ⟨l, hl, ho⟩ := hfound
    exact ⟨l, (mem_visible.mp hl).1, ho⟩

/-- A header above a cut of the visible lines is found in the document. -/
theorem exists_findHeader?_of_visible {h : SectionHeader} {closes : Text → Bool}
    (hv : visible d.lines = above ++ below) (hc : Cut h.isOn closes above below) :
    ∃ n, d.findHeader? h 0 = some n := by
  obtain ⟨l, hl, ho⟩ := hc.exists_opens
  refine exists_findHeader?_iff_visible.mpr ⟨l, ?_, ho⟩
  rw [hv]
  exact List.mem_append_left _ hl

/-- A host that is nowhere in the document is inserted where the visible lines are cut. -/
theorem insertBlock_of_visible (hm : d.contains e.marker = false)
    (hv : visible d.lines = above ++ below) (hc : RouterCut above below) (block : Text) :
    ∃ d', d.insertBlock e block = .ok (.inserted d') ∧
      visible d'.lines = above ++ visible (indentBlock block 4) ++ below := by
  obtain ⟨n, hn⟩ := exists_findHeader?_of_visible hv hc
  obtain ⟨up, down, hd, -, hcut⟩ := cut_insertionPoint hn
  obtain ⟨rfl, rfl⟩ := hc.unique (RouterCut.visible hcut) (by rw [← hv, hd, visible_append])
  refine ⟨_, insertBlock_of_cut hm hd hcut block, ?_⟩
  rw [visible_append, visible_append, visible_dropEndWhile]

theorem insertServiceBlock_of_visible (hv : visible d.lines = above ++ below)
    (hc : SectionCut .services above below) (block : Text) :
    ∃ d', d.insertServiceBlock block = .ok d' ∧
      visible d'.lines = above ++ visible (indentBlock block 4) ++ below := by
  obtain ⟨n, hn⟩ := exists_findHeader?_of_visible hv hc
  obtain ⟨up, down, hd, -, hcut⟩ := cut_sectionEnd hn
  obtain ⟨rfl, rfl⟩ :=
    hc.unique (SectionCut.visible (by decide) hcut) (by rw [← hv, hd, visible_append])
  have hsection : d.serviceSection = .services := by simp [serviceSection, hn]
  have hopening : d.serviceOpening = [] := by simp [serviceOpening, hn]
  refine ⟨_, insertServiceBlock_of_cut hd (by rwa [hsection]) block, ?_⟩
  rw [hopening, visible_append, visible_append, visible_dropEndWhile]
  rfl

end Document
end HostRouting
