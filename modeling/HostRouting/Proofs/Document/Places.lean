import HostRouting.Proofs.Document.Visible
import HostRouting.Proofs.Document.Weaving

/-!
# The two places of blocks

Router blocks stand above the router point, service blocks at the end of the section of
services. In a document that is prepared for hosts both places exist and differ, and a scan
reaches each of them in a section whose members are indented by four. Then the document
falls into three parts, and the blocks at one place can be changed without moving
the other.
-/
namespace HostRouting
open Text SectionHeader

/-- A kind of blocks, by the place where they stand. -/
inductive Place where
  | routers
  | services
  deriving DecidableEq, Repr

namespace Place

def other : Place → Place
  | routers => services
  | services => routers

def header : Place → SectionHeader
  | routers => .routers
  | services => .services

def closes : Place → Text → Bool
  | routers => closesRouters
  | services => isShallow SectionHeader.services.indent

/-- The lines are divided at the place. -/
def Cut (p : Place) (above below : List Text) : Prop :=
  HostRouting.Cut p.header.isOn p.closes above below

variable {p : Place} {above below : List Text}

theorem isShallow_of_closes {line : Text} (h : p.closes line = true) : isShallow 2 line = true := by
  cases p with
  | routers => exact isShallow_of_closesRouters h
  | services => exact h

theorem neutral {lines : List Text} (h : ∀ l ∈ lines, isShallow 2 l = false) :
    Neutral p.header.isOn p.closes lines :=
  neutral_of_deep (by cases p <;> decide) (fun _ => isShallow_of_closes) h

theorem Cut.below_head (h : p.Cut above below) : ∀ l ∈ below.head?, isShallow 2 l = true :=
  fun l hl => isShallow_of_closes (h.closed l hl)

theorem Cut.visible (h : p.Cut above below) : p.Cut (visible above) (visible below) := by
  cases p with
  | routers => exact Document.RouterCut.visible h
  | services => exact Document.SectionCut.visible (by decide) h

/-- Rows put in above a cut leave it a cut. -/
theorem Cut.insert_rows {xs ys rows : List Text} (h : p.Cut (xs ++ ys) below)
    (hr : ∀ l ∈ rows, isShallow 2 l = false) : p.Cut (xs ++ rows ++ ys) below := by
  have hcut : p.Cut (xs ++ [] ++ ys) below := by rwa [List.append_nil]
  exact HostRouting.Cut.replace_above hcut (neutral (by simp)) (neutral hr)

theorem Cut.append_rows {rows : List Text} (h : p.Cut above below)
    (hr : ∀ l ∈ rows, isShallow 2 l = false) : p.Cut (above ++ rows) below := by
  have hcut : p.Cut (above ++ []) below := by rwa [List.append_nil]
  have := hcut.insert_rows hr
  rwa [List.append_nil] at this

theorem Cut.change_below {below' : List Text} (h : p.Cut above below)
    (hh : below'.head? = below.head?) : p.Cut above below' :=
  HostRouting.Cut.replace_below h hh

/-- The part above a cut ends with a bare header and lines indented below headers. -/
def Opened (p : Place) (above : List Text) : Prop :=
  ∃ up line body, above = up ++ line :: body ∧ p.header.isOn line = true ∧
    trim line = p.header.name ++ [':'] ∧ ∀ l ∈ body, isShallow 2 l = false

/-- A scan that keeps these lines comes to the place in a section with members at four. -/
theorem Opened.memberIndent (h : p.Opened above) (state : ScanState) :
    (state.enterAll above).memberIndent = 4 := by
  obtain ⟨up, line, body, rfl, hl, ht, hbody⟩ := h
  have hindent : indentOf line = 2 := by
    rw [indentOf_of_isOn hl]
    cases p <;> rfl
  have hheader : isHeaderLine line = true := by
    rw [isHeaderLine, ht, hindent]
    cases p <;> decide
  have henter : ∀ s : ScanState, (s.enter line).memberIndent = 4 := by
    intro s
    simp [ScanState.enter, hheader, hindent, ScanState.memberIndent, nestWidth]
  have hlast : (state.enterAll (up ++ line :: body)) = (state.enterAll up).enter line := by
    rw [ScanState.enterAll_append]
    exact ScanState.enterAll_of_deep hbody
  rw [hlast, henter]

end Place

/-- A document with a bare header of routers, all lines under it up to the router point deeper than
headers, and a bare header of services. -/
structure Document.Prepared (d : Document) : Prop where
  routers : ∃ n line, d.findHeader? .routers 0 = some n ∧ d.lines[n]? = some line ∧
    trim line = "routers:".toList ∧ ∀ i l, n < i → i < d.insertionPoint n routerSuccessors →
      d.lines[i]? = some l → isShallow 2 l = false
  services : ∃ n line, d.findHeader? .services 0 = some n ∧ d.lines[n]? = some line ∧
    trim line = "services:".toList

namespace Document.Prepared

variable {d : Document}

theorem exists_routerCut (h : d.Prepared) : ∃ above below, d.lines = above ++ below ∧
    Place.routers.Cut above below ∧ Place.routers.Opened above := by
  obtain ⟨n, line, hn, hline, ht, hdeep⟩ := h.routers
  obtain ⟨up, line', body, hd, rfl, hl, hb⟩ := findHeader?_eq_some_iff.mp hn
  obtain rfl : line' = line := by simpa [hd] using hline
  refine ⟨_, _, ?_, Cut.of_header hb hl body, up, line', _, rfl, hl, ht, ?_⟩
  · rw [List.append_assoc, List.cons_append, List.takeWhile_append_dropWhile, hd]
  · intro l hmem
    obtain ⟨i, hi, rfl⟩ := List.getElem_of_mem hmem
    refine hdeep (up.length + 1 + i) _ (by omega) ?_ ?_
    · rw [insertionPoint_of_header hd]
      exact Nat.add_lt_add_left hi _
    · have hprefix : body.takeWhile (!Place.routers.closes ·) <+: body := List.takeWhile_prefix _
      rw [hd, List.getElem?_append_right (by omega), Nat.add_assoc, Nat.add_sub_cancel_left,
        Nat.add_comm 1 i, List.getElem?_cons_succ,
        List.getElem?_eq_getElem (hi.trans_le hprefix.length_le), hprefix.getElem hi]

theorem exists_serviceCut (h : d.Prepared) : ∃ above below, d.lines = above ++ below ∧
    Place.services.Cut above below ∧ Place.services.Opened above := by
  obtain ⟨n, line, hn, hline, ht⟩ := h.services
  obtain ⟨up, line', body, hd, rfl, hl, hb⟩ := findHeader?_eq_some_iff.mp hn
  obtain rfl : line' = line := by simpa [hd] using hline
  refine ⟨_, _, ?_, Cut.of_header hb hl body, up, line', _, rfl, hl, ht, ?_⟩
  · rw [List.append_assoc, List.cons_append, List.takeWhile_append_dropWhile, hd]
  · intro l hl
    have hclosed : Place.services.closes l = false := by simpa using List.mem_takeWhile_imp hl
    exact hclosed

end Document.Prepared

/-- Routers and services do not end at one place: their headers close each other's section. -/
theorem Place.Opened.not_cut {above below : List Text} (h : Place.routers.Opened above) :
    ¬ Place.services.Cut above below := by
  obtain ⟨up, line, body, rfl, hl, -, hbody⟩ := h
  intro hc
  have hread := hc.inside
  have hoff : SectionHeader.services.isOn line = false := services_isOn_of_routers hl
  have hcloses : Place.services.closes line = true := isShallow_of_isOn (by decide) hl
  rw [Phase.read_append, Phase.read_cons, Phase.read_neutral _ (Place.neutral hbody)] at hread
  cases hphase : Phase.read Place.services.header.isOn Place.services.closes .before up with
  | before =>
      rw [hphase, Phase.step, if_neg (by simpa [header] using hoff)] at hread
      cases hread
  | inside =>
      rw [hphase, Phase.step, if_pos hcloses] at hread
      cases hread
  | after =>
      rw [hphase] at hread
      cases hread

/-- Lines in three parts, divided at both places, the upper of which is `p`. -/
structure Layout (p : Place) (top middle bottom : List Text) : Prop where
  middle_ne_nil : middle ≠ []
  upper : p.Cut top (middle ++ bottom)
  lower : p.other.Cut (top ++ middle) bottom
  upper_indent : (ScanState.outside.enterAll top).memberIndent = 4
  lower_indent : (ScanState.outside.enterAll (top ++ middle)).memberIndent = 4

theorem Document.Prepared.exists_layout {d : Document} (h : d.Prepared) :
    ∃ p top middle bottom, d.lines = top ++ middle ++ bottom ∧ Layout p top middle bottom := by
  obtain ⟨a, b, hab, hr, hro⟩ := h.exists_routerCut
  obtain ⟨c, below, hcd, hs, hso⟩ := h.exists_serviceCut
  rcases List.append_eq_append_iff.mp (hab.symm.trans hcd) with ⟨m, rfl, rfl⟩ | ⟨m, rfl, rfl⟩
  · refine ⟨.routers, a, m, below, hcd, ?_, hr, hs, hro.memberIndent _, hso.memberIndent _⟩
    rintro rfl
    rw [List.append_nil] at hs
    exact hro.not_cut hs
  · refine ⟨.services, c, m, b, hab, ?_, hs, hr, hso.memberIndent _, hro.memberIndent _⟩
    rintro rfl
    rw [List.append_nil] at hro
    exact hro.not_cut hs

/-- The three parts with blocks at both places. -/
def spread (p : Place) (top middle bottom : List Text) (blocks : Place → List Text) : List Text :=
  top ++ blocks p ++ middle ++ blocks p.other ++ bottom

theorem Place.eq_or_eq_other (p q : Place) : q = p ∨ q = p.other := by
  cases p <;> cases q <;> simp [other]

theorem Place.other_ne (p : Place) : p.other ≠ p := by
  cases p <;> simp [other]

namespace Layout

variable {p : Place} {top middle bottom : List Text} {blocks : Place → List Text}

theorem middle_head (h : Layout p top middle bottom) :
    ∀ l ∈ middle.head?, isShallow 2 l = true := by
  intro l hl
  obtain ⟨rest, rfl⟩ := List.head?_eq_some_iff.mp hl
  exact h.upper.below_head l rfl

theorem visible (h : Layout p top middle bottom) :
    Layout p (visible top) (visible middle) (visible bottom) where
  middle_ne_nil := by
    obtain ⟨l, rest, rfl⟩ := List.exists_cons_of_ne_nil h.middle_ne_nil
    rw [visible_cons_of_not_blank (visible_of_isShallow (h.middle_head l rfl))]
    exact List.cons_ne_nil _ _
  upper := by
    have := h.upper.visible
    rwa [visible_append] at this
  lower := by
    have := h.lower.visible
    rwa [visible_append] at this
  upper_indent := by
    rw [ScanState.enterAll_visible]
    exact h.upper_indent
  lower_indent := by
    rw [← visible_append, ScanState.enterAll_visible]
    exact h.lower_indent

theorem spread_upper_cut (h : Layout p top middle bottom)
    (hb : ∀ l ∈ blocks p, isShallow 2 l = false) :
    p.Cut (top ++ blocks p) (middle ++ blocks p.other ++ bottom) := by
  obtain ⟨l, rest, hl⟩ := List.exists_cons_of_ne_nil h.middle_ne_nil
  exact (h.upper.append_rows hb).change_below (by simp [hl])

theorem spread_lower_cut (h : Layout p top middle bottom)
    (hb : ∀ q, ∀ l ∈ blocks q, isShallow 2 l = false) :
    p.other.Cut (top ++ blocks p ++ middle ++ blocks p.other) bottom :=
  (h.lower.insert_rows (hb p)).append_rows (hb p.other)

/-- Each place has its cut below the blocks that stand there, and rows put in there join them. -/
theorem exists_cut (h : Layout p top middle bottom)
    (hb : ∀ q, ∀ l ∈ blocks q, isShallow 2 l = false) (q : Place) :
    ∃ above below, spread p top middle bottom blocks = above ++ below ∧ q.Cut above below ∧
      ∀ rows, above ++ rows ++ below =
        spread p top middle bottom fun r => if r = q then blocks r ++ rows else blocks r := by
  rcases p.eq_or_eq_other q with rfl | rfl
  · refine ⟨_, _, ?_, h.spread_upper_cut (hb q), ?_⟩
    · simp [spread]
    · intro rows
      simp [spread, q.other_ne]
  · refine ⟨_, _, ?_, h.spread_lower_cut hb, ?_⟩
    · simp [spread]
    · intro rows
      simp [spread, p.other_ne.symm]

end Layout
end HostRouting
