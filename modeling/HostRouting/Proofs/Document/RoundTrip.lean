import HostRouting.Proofs.Document.Placement
import HostRouting.Proofs.Document.Scan
import HostRouting.Proofs.Document.Weaving

/-!
# Removing a host that was added

A document in which no line opens a block of a host comes back when the host is added and
removed again, line for line and in order. What an insertion does beside its rows
stays: the gaps above the two points are closed, and the header of the section of services
is there if it had to be written. The two points may lie in any order or be one place.
-/
namespace HostRouting
open Text

variable {policy : MatchPolicy} {e : Entity} {plan : RoutingPlan} {d d' : Document}

namespace Document

/-- The lines above which adding a host by the plan puts a block. -/
def blockPoints (d : Document) (plan : RoutingPlan) : List Nat :=
  d.routerPoint?.toList ++ if plan.separate then [] else d.servicePoint?.toList

/-- The header that adding a shared service writes before line `i`. -/
def openingAt (d : Document) (plan : RoutingPlan) (i : Nat) : List Text :=
  if plan.separate = false ∧ d.servicePoint? = some i then d.serviceOpening else []

/-- What is left of an addition by the plan once its blocks are gone: the document without the
blank lines directly above the points, and with the header that a shared service may need. -/
def residue (d : Document) (plan : RoutingPlan) : Document :=
  ⟨weave (d.openingAt plan) (fun i => !(d.blockPoints plan).any (inGap d.lines · i)) d.lines⟩

/-- A document with two blocks of the host, each put in place of a gap and below lines that are
kept with it. Either place may be the upper one; where the places are one, nothing lies between. -/
structure TwoBlocks (policy : MatchPolicy) (e : Entity) (d d' : Document) where
  top : List Text
  gap₁ : List Text
  middle : List Text
  gap₂ : List Text
  bottom : List Text
  kept₁ : List Text
  rows₁ : List Text
  kept₂ : List Text
  rows₂ : List Text
  lines_eq : d.lines = top ++ gap₁ ++ (middle ++ gap₂) ++ bottom
  added_eq : d'.lines = top ++ (kept₁ ++ rows₁) ++ middle ++ (kept₂ ++ rows₂) ++ bottom
  gap_top : dropEndWhile isBlank (top ++ gap₁) = top
  gap_middle : dropEndWhile isBlank (middle ++ gap₂) = middle
  one_place : middle = [] → gap₂ = []
  owned₁ : OwnedRows policy e rows₁
  owned₂ : OwnedRows policy e rows₂
  middle_head : ∀ l ∈ middle.head?, isShallow 2 l = true
  kept_head : ∀ l ∈ kept₂.head?, isShallow 2 l = true
  bottom_head : ∀ l ∈ bottom.head?, isShallow 2 l = true

end Document

theorem mem_head?_append {α : Type} {xs ys : List α} {a : α} (h : a ∈ (xs ++ ys).head?) :
    a ∈ xs.head? ∨ a ∈ ys.head? := by
  cases xs with
  | nil => exact .inr h
  | cons x xs => exact .inl h

open ScanState

namespace Document.TwoBlocks

variable (t : TwoBlocks policy e d d')

def first : Nat := t.top.length + t.gap₁.length

def second : Nat := t.first + t.middle.length + t.gap₂.length

/-- A scan takes both blocks out and keeps everything else. -/
theorem keptLines_eq (hfree : ∀ l ∈ d.lines, policy.startsBlock e l = false)
    (hkept : ∀ l ∈ t.kept₁ ++ t.kept₂, policy.startsBlock e l = false) :
    keptLines policy e .outside d'.lines =
      t.top ++ t.kept₁ ++ t.middle ++ t.kept₂ ++ t.bottom := by
  rw [t.lines_eq] at hfree
  simp only [List.forall_mem_append] at hfree hkept
  obtain ⟨⟨⟨htop, _⟩, hmiddle, _⟩, hbottom⟩ := hfree
  let s₁ := ScanState.outside.enterAll (t.top ++ t.kept₁)
  let s₂ := s₁.enterAll (t.middle ++ t.kept₂)
  have hs₁ : Regular s₁ := regular_outside.enterAll _
  have hs₂ : Regular s₂ := hs₁.enterAll _
  have hfirst : ∀ l ∈ t.top ++ t.kept₁, policy.startsBlock e l = false :=
    List.forall_mem_append.mpr ⟨htop, hkept.1⟩
  have hsecond : ∀ l ∈ t.middle ++ t.kept₂, policy.startsBlock e l = false :=
    List.forall_mem_append.mpr ⟨hmiddle, hkept.2⟩
  have hbehind : Resumes policy e s₁ (t.middle ++ t.kept₂ ++ (t.rows₂ ++ t.bottom)) := by
    cases hm : t.middle ++ t.kept₂ with
    | nil => exact resumes_owned_append hs₁ t.owned₂ t.bottom
    | cons l more =>
        have hl : l ∈ (t.middle ++ t.kept₂).head? := by simp [hm]
        refine resumes_of_shallow_two hs₁ ?_ ?_
        · rintro x hx
          obtain rfl : l = x := by simpa using hx
          exact hsecond l (List.mem_of_mem_head? hl)
        · rintro x hx
          obtain rfl : l = x := by simpa using hx
          exact (mem_head?_append hl).elim (t.middle_head l) (t.kept_head l)
  have hend : Resumes policy e s₂ t.bottom :=
    resumes_of_shallow_two hs₂ (fun l hl => hbottom l (List.mem_of_mem_head? hl)) t.bottom_head
  calc keptLines policy e .outside d'.lines
    _ = keptLines policy e .outside
        (t.top ++ t.kept₁ ++ (t.rows₁ ++ (t.middle ++ t.kept₂ ++ (t.rows₂ ++ t.bottom)))) := by
      rw [t.added_eq]
      simp only [List.append_assoc]
    _ = t.top ++ t.kept₁ ++
        keptLines policy e s₁ (t.rows₁ ++ (t.middle ++ t.kept₂ ++ (t.rows₂ ++ t.bottom))) :=
      keptLines_free_append regular_outside hfirst _
    _ = t.top ++ t.kept₁ ++
        keptLines policy e s₁ (t.middle ++ t.kept₂ ++ (t.rows₂ ++ t.bottom)) := by
      rw [keptLines_block hs₁ t.owned₁ hbehind]
    _ = t.top ++ t.kept₁ ++
        (t.middle ++ t.kept₂ ++ keptLines policy e s₂ (t.rows₂ ++ t.bottom)) := by
      rw [keptLines_free_append hs₁ hsecond]
    _ = t.top ++ t.kept₁ ++ (t.middle ++ t.kept₂ ++ t.bottom) := by
      rw [keptLines_block hs₂ t.owned₂ hend, keptLines_free hs₂ hbottom]
    _ = t.top ++ t.kept₁ ++ t.middle ++ t.kept₂ ++ t.bottom := by simp only [List.append_assoc]

theorem inGap_first (i : Nat) :
    inGap d.lines t.first i = true ↔ t.top.length ≤ i ∧ i < t.first := by
  have h := inGap_iff (t.top ++ t.gap₁) (t.middle ++ t.gap₂ ++ t.bottom) (i := i)
  rw [t.gap_top, List.length_append, ← List.append_assoc, ← t.lines_eq] at h
  exact h

theorem inGap_second (i : Nat) : inGap d.lines t.second i = true ↔
    t.middle = [] ∧ t.top.length ≤ i ∧ i < t.first ∨
      t.middle ≠ [] ∧ t.first + t.middle.length ≤ i ∧ i < t.second := by
  by_cases hm : t.middle = []
  · have hsecond : t.second = t.first := by simp [second, hm, t.one_place hm]
    rw [hsecond, t.inGap_first]
    simp [hm]
  · have hvisible : ∃ l ∈ t.middle ++ t.gap₂, isBlank l = false := by
      obtain ⟨l, rest, hl⟩ := List.exists_cons_of_ne_nil hm
      exact ⟨l, by simp [hl], visible_of_isShallow (t.middle_head l (by simp [hl]))⟩
    have h := inGap_iff (t.top ++ t.gap₁ ++ (t.middle ++ t.gap₂)) t.bottom (i := i)
    rw [dropEndWhile_append_of_exists _ hvisible, t.gap_middle, ← t.lines_eq] at h
    simp only [List.length_append, ← Nat.add_assoc] at h
    simpa [second, first, hm] using h

/-- Leaving out the gaps above both places and putting the kept lines there. -/
theorem weave_eq {extra : Nat → List Text}
    (hextra : ∀ i, extra i = (if i = t.first then t.kept₁ else []) ++
      if i = t.second then t.kept₂ else []) :
    weave extra (fun i => !(inGap d.lines t.first i || inGap d.lines t.second i)) d.lines =
      t.top ++ t.kept₁ ++ t.middle ++ t.kept₂ ++ t.bottom := by
  conv_lhs => rw [t.lines_eq]
  refine weave_two_places t.one_place ?_ hextra
  intro i
  rw [Bool.not_eq_false', ← t.lines_eq, Bool.or_eq_true, t.inGap_first, t.inGap_second]
  change _ ↔ t.top.length ≤ i ∧ i < t.first ∨
    t.first + t.middle.length ≤ i ∧ i < t.second
  by_cases hm : t.middle = []
  · have hsecond : t.second = t.first := by simp [second, hm, t.one_place hm]
    simp only [hm, hsecond, List.length_nil, true_and, ne_eq, not_true_eq_false, false_and,
      or_false]
    omega
  · simp [hm]

/-- What a scan keeps is what was there, up to the gaps and the lines kept with the blocks. -/
theorem keptLines_eq_weave (hfree : ∀ l ∈ d.lines, policy.startsBlock e l = false)
    (hkept : ∀ l ∈ t.kept₁ ++ t.kept₂, policy.startsBlock e l = false) {extra : Nat → List Text}
    (hextra : ∀ i, extra i = (if i = t.first then t.kept₁ else []) ++
      if i = t.second then t.kept₂ else []) :
    keptLines policy e .outside d'.lines =
      weave extra (fun i => !(inGap d.lines t.first i || inGap d.lines t.second i)) d.lines := by
  rw [t.keptLines_eq hfree hkept, t.weave_eq hextra]

end Document.TwoBlocks

theorem OwnedRows.dropEndWhile {rows : List Text} (h : OwnedRows policy e rows) :
    OwnedRows policy e (dropEndWhile isBlank rows) where
  first := by
    obtain ⟨row, hr, hs⟩ := h.first
    obtain ⟨rest, rfl⟩ := List.head?_eq_some_iff.mp hr
    refine ⟨row, ?_, hs⟩
    rw [dropEndWhile_cons_of_neg _ _ (not_isBlank_of_startsBlock hs)]
    rfl
  rest := fun row hr => h.rest row (mem_of_mem_dropEndWhile _ hr)

theorem OwnedRows.exists_visible {rows : List Text} (h : OwnedRows policy e rows) :
    ∃ row ∈ rows, isBlank row = false := by
  obtain ⟨row, hr, hs⟩ := h.first
  exact ⟨row, List.mem_of_mem_head? hr, not_isBlank_of_startsBlock hs⟩

namespace Document

theorem isShallow_of_mem_routerRows {row : Text} (h : row ∈ plan.routerRows policy e) :
    isShallow 2 row = false := isShallow_of_mem_indentBlock (by decide) h

section
variable {top gap bottom up down w : List Text}

/-- The service point lies above the router point. -/
theorem exists_twoBlocks_serviceFirst (he : '\n' ∉ e.host) (hp : plan.OneLine)
    (hd : d.lines = top ++ gap ++ bottom) (htop : dropEndWhile isBlank (top ++ gap) = top)
    (hr : RouterCut (top ++ gap) bottom) (hw : w ≠ []) (hup : top = up ++ w)
    (hc : SectionCut d.serviceSection up (w ++ plan.routerRows policy e ++ bottom))
    (hd' : d'.lines = dropEndWhile isBlank up ++ (d.serviceOpening ++ plan.serviceRows policy e) ++
      (w ++ plan.routerRows policy e ++ bottom)) :
    ∃ t : TwoBlocks policy e d d', d.servicePoint? = some t.first ∧
      d.routerPoint? = some t.second ∧ t.first ≠ t.second ∧
        t.kept₁ = d.serviceOpening ∧ t.kept₂ = [] := by
  obtain ⟨gap', hgap', -⟩ := exists_append_dropEndWhile isBlank up
  obtain ⟨l, rest, rfl⟩ := List.exists_cons_of_ne_nil hw
  have hhead : isShallow 2 l = true :=
    isShallow_mono d.indent_serviceSection_le (hc.closed l rfl)
  have hlength : (dropEndWhile isBlank up).length + gap'.length = up.length := by
    rw [← List.length_append, ← hgap']
  have hmiddle : dropEndWhile isBlank (l :: rest ++ gap) = l :: rest := by
    have hvisible : ∃ x ∈ l :: rest ++ gap, isBlank x = false :=
      ⟨l, by simp, visible_of_isShallow hhead⟩
    have := htop
    rw [hup, List.append_assoc, dropEndWhile_append_of_exists _ hvisible] at this
    exact List.append_cancel_left this
  have hservice : d.servicePoint? = some up.length := by
    refine servicePoint?_eq_some_iff.mpr ⟨up, l :: rest ++ gap ++ bottom, ?_, rfl, ?_⟩
    · rw [hd, hup]
      simp only [List.append_assoc]
    · exact hc.replace_below rfl
  have hrouter : d.routerPoint? = some (up.length + (l :: rest).length + gap.length) := by
    refine routerPoint?_eq_some_iff.mpr ⟨top ++ gap, bottom, hd, ?_, hr⟩
    rw [hup]
    simp only [List.length_append]
  refine ⟨{
      top := dropEndWhile isBlank up, gap₁ := gap', middle := l :: rest, gap₂ := gap
      bottom := bottom, kept₁ := d.serviceOpening, rows₁ := plan.serviceRows policy e
      kept₂ := [], rows₂ := plan.routerRows policy e
      lines_eq := by
        rw [hd, hup, ← hgap']
        simp only [List.append_assoc]
      added_eq := by
        rw [hd']
        simp only [List.append_assoc, List.nil_append]
      gap_top := by rw [← hgap']
      gap_middle := hmiddle
      one_place := by simp
      owned₁ := plan.ownedRows_serviceRows he hp
      owned₂ := plan.ownedRows_routerRows he hp
      middle_head := by simpa using hhead
      kept_head := by simp
      bottom_head := hr.bottom_head }, ?_, ?_, ?_, rfl, rfl⟩
  · rw [hservice, TwoBlocks.first, hlength]
  · rw [hrouter, TwoBlocks.second, TwoBlocks.first, hlength]
  · simp [TwoBlocks.second]
    omega

/-- Both points are one: the service block stands directly below the router block. -/
theorem exists_twoBlocks_onePoint (he : '\n' ∉ e.host) (hp : plan.OneLine)
    (hd : d.lines = top ++ gap ++ bottom) (htop : dropEndWhile isBlank (top ++ gap) = top)
    (hr : RouterCut (top ++ gap) bottom)
    (hc : SectionCut d.serviceSection (top ++ gap) bottom)
    (hd' : d'.lines = dropEndWhile isBlank (top ++ plan.routerRows policy e) ++
      (d.serviceOpening ++ plan.serviceRows policy e) ++ bottom) :
    ∃ t : TwoBlocks policy e d d', d.routerPoint? = some t.first ∧
      d.servicePoint? = some t.second ∧ t.kept₁ = [] ∧ t.kept₂ = d.serviceOpening := by
  have howned : OwnedRows policy e (plan.routerRows policy e) := plan.ownedRows_routerRows he hp
  have hlength : (top ++ gap).length = top.length + gap.length := List.length_append
  rw [dropEndWhile_append_of_exists _ howned.exists_visible] at hd'
  refine ⟨{
      top := top, gap₁ := gap, middle := [], gap₂ := [], bottom := bottom, kept₁ := []
      rows₁ := dropEndWhile isBlank (plan.routerRows policy e), kept₂ := d.serviceOpening
      rows₂ := plan.serviceRows policy e
      lines_eq := by simpa using hd
      added_eq := by
        rw [hd']
        simp only [List.append_assoc, List.nil_append]
      gap_top := htop
      gap_middle := rfl
      one_place := fun _ => rfl
      owned₁ := howned.dropEndWhile
      owned₂ := plan.ownedRows_serviceRows he hp
      middle_head := by simp
      kept_head := d.serviceOpening_head
      bottom_head := hr.bottom_head }, ?_, ?_, rfl, rfl⟩
  · exact routerPoint?_eq_some_iff.mpr ⟨top ++ gap, bottom, hd, hlength, hr⟩
  · exact servicePoint?_eq_some_iff.mpr ⟨top ++ gap, bottom, hd, hlength, hc⟩

/-- The router point lies above the service point. -/
theorem exists_twoBlocks_routerFirst (he : '\n' ∉ e.host) (hp : plan.OneLine)
    (hd : d.lines = top ++ gap ++ (w ++ down)) (htop : dropEndWhile isBlank (top ++ gap) = top)
    (hr : RouterCut (top ++ gap) (w ++ down)) (hw : w ≠ [])
    (hc : SectionCut d.serviceSection (top ++ gap ++ w) down)
    (hd' : d'.lines = dropEndWhile isBlank (top ++ plan.routerRows policy e ++ w) ++
      (d.serviceOpening ++ plan.serviceRows policy e) ++ down) :
    ∃ t : TwoBlocks policy e d d', d.routerPoint? = some t.first ∧
      d.servicePoint? = some t.second ∧ t.kept₁ = [] ∧ t.kept₂ = d.serviceOpening := by
  obtain ⟨gap', hgap', -⟩ := exists_append_dropEndWhile isBlank w
  have hhead : ∀ l ∈ w.head?, isShallow 2 l = true := by
    intro l hl
    apply hr.bottom_head l
    obtain ⟨rest, rfl⟩ := List.head?_eq_some_iff.mp hl
    rfl
  obtain ⟨l, rest, rfl⟩ := List.exists_cons_of_ne_nil hw
  have hvisible : isBlank l = false := visible_of_isShallow (hhead l rfl)
  have hmiddle := dropEndWhile_cons_of_neg isBlank rest hvisible
  have hlength : (dropEndWhile isBlank (l :: rest)).length + gap'.length = (l :: rest).length := by
    rw [← List.length_append, ← hgap']
  rw [dropEndWhile_append_of_exists _ ⟨l, List.mem_cons_self, hvisible⟩] at hd'
  refine ⟨{
      top := top, gap₁ := gap, middle := dropEndWhile isBlank (l :: rest), gap₂ := gap'
      bottom := down, kept₁ := [], rows₁ := plan.routerRows policy e
      kept₂ := d.serviceOpening, rows₂ := plan.serviceRows policy e
      lines_eq := by
        rw [hd, ← hgap']
        simp only [List.append_assoc]
      added_eq := by
        rw [hd']
        simp only [List.append_assoc, List.nil_append]
      gap_top := htop
      gap_middle := by rw [← hgap']
      one_place := by simp [hmiddle]
      owned₁ := plan.ownedRows_routerRows he hp
      owned₂ := plan.ownedRows_serviceRows he hp
      middle_head := by
        rw [hmiddle]
        exact hhead
      kept_head := d.serviceOpening_head
      bottom_head := SectionCut.bottom_head d.indent_serviceSection_le hc }, ?_, ?_, rfl, rfl⟩
  · exact routerPoint?_eq_some_iff.mpr ⟨top ++ gap, l :: rest ++ down, hd, List.length_append, hr⟩
  · refine servicePoint?_eq_some_iff.mpr ⟨top ++ gap ++ (l :: rest), down, ?_, ?_, hc⟩
    · rw [hd]
      simp only [List.append_assoc]
    · rw [TwoBlocks.second, TwoBlocks.first]
      simp only [List.length_append]
      omega

end

/-- The blocks of a shared plan: the router block stands first, or directly above the service
block, or below it. -/
theorem exists_twoBlocks (he : '\n' ∉ e.host) (hp : plan.OneLine)
    (h : d.addHost policy e plan = .ok (.inserted d')) (hs : plan.separate = false) :
    ∃ t : TwoBlocks policy e d d',
      d.routerPoint? = some t.first ∧ d.servicePoint? = some t.second ∧
          t.kept₁ = [] ∧ t.kept₂ = d.serviceOpening ∨
        d.servicePoint? = some t.first ∧ d.routerPoint? = some t.second ∧
          t.first ≠ t.second ∧ t.kept₁ = d.serviceOpening ∧ t.kept₂ = [] := by
  obtain ⟨routed, hr, hcase⟩ := addHost_eq_inserted h
  have hservice : routed.insertServiceBlock (plan.serviceBlock policy e) = .ok d' :=
    hcase.elim (fun hc => by simp [hs] at hc) (·.2)
  obtain ⟨-, above, bottom, hd, hrouter, hrouted⟩ := insertBlock_eq_inserted hr
  obtain ⟨up, down, hud, hcut, hd'⟩ := insertServiceBlock_eq_ok hservice
  obtain ⟨gap, hgap, hblank⟩ := exists_append_dropEndWhile isBlank above
  have htop : dropEndWhile isBlank (dropEndWhile isBlank above ++ gap) =
      dropEndWhile isBlank above := by rw [← hgap]
  generalize dropEndWhile isBlank above = top at *
  subst hgap
  have hgapdeep : ∀ l ∈ gap, isShallow 2 l = false := fun l hl => isShallow_of_isBlank (hblank l hl)
  have hrowdeep : ∀ l ∈ plan.routerRows policy e, isShallow 2 l = false :=
    fun l hl => isShallow_of_mem_routerRows hl
  obtain ⟨hsection, hopening⟩ := serviceSection_of_deep hd hrouted hgapdeep hrowdeep
  rw [hsection] at hcut
  rw [hopening] at hd'
  have hneutral : ∀ {rows : List Text}, (∀ l ∈ rows, isShallow 2 l = false) →
      Neutral d.serviceSection.isOn (isShallow d.serviceSection.indent) rows :=
    neutral_of_deep d.indent_serviceSection_le
      fun l hl => isShallow_mono d.indent_serviceSection_le hl
  rcases hcut.above_or_below (hud.symm.trans hrouted) (hneutral hrowdeep) with
    ⟨w, hw, htop', hdown⟩ | ⟨w, hup, hbottom⟩
  · subst hdown
    obtain ⟨t, ht⟩ := exists_twoBlocks_serviceFirst he hp hd htop hrouter hw htop' hcut hd'
    exact ⟨t, .inr ht⟩
  · rw [hup] at hcut hd'
    have hcut' := hcut.replace_above (hneutral hrowdeep) (hneutral hgapdeep)
    subst hbottom
    by_cases hw : w = []
    · subst hw
      rw [List.append_nil] at hcut' hd'
      obtain ⟨t, ht⟩ := exists_twoBlocks_onePoint he hp hd htop hrouter hcut' hd'
      exact ⟨t, .inl ht⟩
    · obtain ⟨t, ht⟩ := exists_twoBlocks_routerFirst he hp hd htop hrouter hw hcut' hd'
      exact ⟨t, .inl ht⟩

/-- Without a shared service only the router block comes and goes. -/
theorem keptLines_addHost_separate (he : '\n' ∉ e.host) (hp : plan.OneLine)
    (hfree : ∀ l ∈ d.lines, policy.startsBlock e l = false)
    (h : d.addHost policy e plan = .ok (.inserted d')) (hs : plan.separate = true) :
    keptLines policy e .outside d'.lines = (d.residue plan).lines := by
  obtain ⟨routed, hr, hcase⟩ := addHost_eq_inserted h
  obtain rfl : d' = routed := hcase.elim (·.2) (fun hc => by simp [hs] at hc)
  obtain ⟨-, above, below, hd, hcut, hrouted⟩ := insertBlock_eq_inserted hr
  have hpoint : d.routerPoint? = some above.length :=
    routerPoint?_eq_some_iff.mpr ⟨above, below, hd, rfl, hcut⟩
  rw [hd, List.forall_mem_append] at hfree
  have htop : ∀ l ∈ dropEndWhile isBlank above, policy.startsBlock e l = false :=
    fun l hl => hfree.1 l (mem_of_mem_dropEndWhile _ hl)
  have hstate := regular_outside.enterAll (dropEndWhile isBlank above)
  have hresidue : (d.residue plan).lines = dropEndWhile isBlank above ++ below := by
    have hopening : d.openingAt plan = fun _ => [] := by
      funext i
      simp [openingAt, hs]
    rw [residue, blockPoints, hpoint, hs, hopening, hd, ← weave_close_gap]
    simp
  have howned : OwnedRows policy e (plan.routerRows policy e) := plan.ownedRows_routerRows he hp
  have hrest := keptLines_block hstate howned
    (resumes_of_shallow_two hstate (fun l hl => hfree.2 l (List.mem_of_mem_head? hl))
      hcut.bottom_head)
  rw [hresidue, hrouted, List.append_assoc, keptLines_free_append regular_outside htop]
  exact congrArg _ (hrest.trans (keptLines_free hstate hfree.2))

/-- With a shared service both blocks go, and a header written for them stays. -/
theorem keptLines_addHost_shared (he : '\n' ∉ e.host) (hp : plan.OneLine)
    (hfree : ∀ l ∈ d.lines, policy.startsBlock e l = false)
    (h : d.addHost policy e plan = .ok (.inserted d')) (hs : plan.separate = false) :
    keptLines policy e .outside d'.lines = (d.residue plan).lines := by
  have hopening : ∀ l ∈ d.serviceOpening, policy.startsBlock e l = false :=
    d.startsBlock_of_mem_serviceOpening
  obtain ⟨t, ⟨hr, hq, hk₁, hk₂⟩ | ⟨hq, hr, hne, hk₁, hk₂⟩⟩ := exists_twoBlocks he hp h hs
  · have hextra : ∀ i, d.openingAt plan i =
        (if i = t.first then t.kept₁ else []) ++ if i = t.second then t.kept₂ else [] := by
      intro i
      simp [openingAt, hs, hq, hk₁, hk₂, eq_comm (a := t.second)]
    rw [t.keptLines_eq_weave hfree (by simpa [hk₁, hk₂] using hopening) hextra]
    simp [residue, blockPoints, hr, hq, hs]
  · have hextra : ∀ i, d.openingAt plan i =
        (if i = t.first then t.kept₁ else []) ++ if i = t.second then t.kept₂ else [] := by
      intro i
      simp [openingAt, hs, hq, hk₁, hk₂, eq_comm (a := t.first)]
    rw [t.keptLines_eq_weave hfree (by simpa [hk₁, hk₂] using hopening) hextra]
    simp [residue, blockPoints, hr, hq, hs, Bool.or_comm]

/-- A host that is added to a document without lines of it and then removed leaves the document
as it was, up to the gaps that the insertion closed, the header it wrote and blank edges. -/
theorem removeHost_addHost (he : '\n' ∉ e.host) (hp : plan.OneLine)
    (hfree : ∀ l ∈ d.lines, policy.startsBlock e l = false)
    (h : d.addHost policy e plan = .ok (.inserted d')) :
    d'.removeHost policy e = (d.residue plan).trimBlankEdges := by
  have hkept : keptLines policy e .outside d'.lines = (d.residue plan).lines := by
    cases hs : plan.separate with
    | true => exact keptLines_addHost_separate he hp hfree h hs
    | false => exact keptLines_addHost_shared he hp hfree h hs
  rw [removeHost, hkept]

/-- A host whose shared service needs the header of its section. -/
def sampleShop : Entity := ⟨"shop.example.com".toList, by decide, by decide⟩

def sampleShared : RoutingPlan :=
  { backend := "web".toList, frontend := "web".toList, separate := false }

def sampleRouters : Document := ⟨["http:", "  routers:", "", "log:", ""].map String.toList⟩

theorem removeHost_addHost_sample : ∃ d',
    sampleRouters.addHost .firstLabel sampleShop sampleShared = .ok (.inserted d') ∧
      d'.removeHost .firstLabel sampleShop =
        ⟨["http:", "  routers:", "  services:", "log:"].map String.toList⟩ := by
  have hplain : ∀ l ∈ sampleRouters.lines, '\x60' ∉ l ∧ '#' ∉ l ∧ '-' ∉ l := by decide
  have hfree : ∀ l ∈ sampleRouters.lines, MatchPolicy.firstLabel.startsBlock sampleShop l = false :=
    fun l hl => startsBlock_of_plain (hplain l hl)
  have hp : sampleShared.OneLine := by constructor <;> decide
  exact ⟨_, rfl, (removeHost_addHost (by decide) hp hfree rfl).trans (by decide +kernel)⟩

end Document
end HostRouting
