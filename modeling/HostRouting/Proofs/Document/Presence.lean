import HostRouting.Document.Editor
import HostRouting.Proofs.Document.Places

/-!
# Runs of edits

Hosts are added and removed in any order. What stands in the document after a run is decided
by a roster of the hosts now present: an addition enters a host that is absent at
the end, a removal strikes it out. The visible lines are those of the first document, with the
blocks of the roster at both places in its order. The removal of a host stops at
the blocks of its neighbours because each of these opens with a row as deep as a member.
-/
namespace HostRouting
open Text

/-- An edit of a whole host. -/
inductive HostEdit where
  | add (e : Entity) (plan : RoutingPlan)
  | remove (e : Entity)
  deriving DecidableEq

/-- The hosts that stand in a document, each with the plan of its blocks, in the order of their
additions. -/
abbrev Roster := List (Entity × RoutingPlan)

namespace HostEdit

/-- The document after an edit; one that is refused changes nothing. -/
def apply (policy : MatchPolicy) (d : Document) : HostEdit → Document
  | add e plan =>
    match d.addHost policy e plan with
    | .ok (.inserted d') => d'
    | _ => d
  | remove e => d.removeHost policy e

def run (policy : MatchPolicy) (d : Document) (edits : List HostEdit) : Document :=
  edits.foldl (apply policy) d

/-- The roster after an edit. -/
def enroll (roster : Roster) : HostEdit → Roster
  | add e plan => if e ∈ roster.map Prod.fst then roster else roster ++ [(e, plan)]
  | remove e => roster.filter (·.1 ≠ e)

/-- The roster after a run that begins without hosts. -/
def roster (edits : List HostEdit) : Roster := edits.foldl enroll []

end HostEdit

/-- The hosts that a run edits, each with the plans by which it may be added. -/
structure Fleet where
  hosts : List Entity
  plans : Entity → List RoutingPlan

namespace Fleet

/-- The edit is of a host of the fleet, an addition by one of its plans. -/
def Covers (fleet : Fleet) : HostEdit → Prop
  | .add e plan => e ∈ fleet.hosts ∧ plan ∈ fleet.plans e
  | .remove e => e ∈ fleet.hosts

instance (fleet : Fleet) : DecidablePred fleet.Covers
  | .add e plan => inferInstanceAs (Decidable (e ∈ fleet.hosts ∧ plan ∈ fleet.plans e))
  | .remove e => inferInstanceAs (Decidable (e ∈ fleet.hosts))

/-- No line of the document opens a block of a host of the fleet, and no line generated for one of
its hosts opens a block of another. -/
structure Apart (fleet : Fleet) (policy : MatchPolicy) (d : Document) : Prop where
  host_oneLine : ∀ e ∈ fleet.hosts, '\n' ∉ e.host
  plan_oneLine : ∀ e ∈ fleet.hosts, ∀ plan ∈ fleet.plans e, plan.OneLine
  free : ∀ e ∈ fleet.hosts, ∀ l ∈ d.lines, policy.startsBlock e l = false
  apart : ∀ e ∈ fleet.hosts, ∀ plan ∈ fleet.plans e, ∀ f ∈ fleet.hosts, f ≠ e →
    ∀ l ∈ plan.generatedLines policy e, policy.startsBlock f l = false

end Fleet

/-- The rows of a host at a place; a plan with separate services has none among the services. -/
def Place.rows (policy : MatchPolicy) (h : Entity × RoutingPlan) : Place → List Text
  | .routers => h.2.routerRows policy h.1
  | .services => if h.2.separate then [] else h.2.serviceRows policy h.1

namespace Document

/-- What a roster puts before line `i`. -/
def rosterRows (d : Document) (policy : MatchPolicy) (roster : Roster) (i : Nat) : List Text :=
  (if d.routerPoint? = some i then roster.flatMap (Place.rows policy · .routers) else []) ++
    if d.servicePoint? = some i then roster.flatMap (Place.rows policy · .services) else []

/-- The document with the blocks of a roster at both places. -/
def withRoster (d : Document) (policy : MatchPolicy) (roster : Roster) : Document :=
  ⟨weave (d.rosterRows policy roster) (fun _ => true) d.lines⟩

end Document

section
variable {policy : MatchPolicy} {e f : Entity} {plan : RoutingPlan} {p : Place}

namespace Place

theorem isShallow_of_mem_rows {h : Entity × RoutingPlan} {row : Text}
    (hr : row ∈ p.rows policy h) : isShallow 2 row = false := by
  cases p with
  | routers => exact isShallow_of_mem_indentBlock (by decide) hr
  | services =>
      rw [rows] at hr
      split_ifs at hr
      · cases hr
      · exact isShallow_of_mem_indentBlock (by decide) hr

/-- The rows of a host at a place are made from lines generated for it, the first of which is a
comment, or there are none. -/
theorem rows_eq (p : Place) (policy : MatchPolicy) (e : Entity) (plan : RoutingPlan) :
    p.rows policy (e, plan) = [] ∨ ∃ lines,
      p.rows policy (e, plan) = indentBlock (ofLines lines) 4 ∧
      (∃ kind : BlockKind, lines.head? = some (kind.comment e)) ∧
        ∀ l ∈ lines, l ∈ plan.generatedLines policy e ∧ OwnedLine policy e l := by
  cases p with
  | routers =>
      refine .inr ⟨_, rfl, plan.head?_routerLines policy e, fun l hl => ⟨?_, ?_⟩⟩
      · exact List.mem_append_left _ hl
      · exact RoutingPlan.ownedLine_of_mem_routerLines hl
  | services =>
      cases hs : plan.separate with
      | true => exact .inl (by simp [rows, hs])
      | false =>
          refine .inr ⟨plan.serviceLines policy e, by simp [rows, hs]; rfl, ⟨.service, rfl⟩,
            fun l hl => ⟨?_, RoutingPlan.ownedLine_of_mem_serviceLines hl⟩⟩
          exact List.mem_append_right _ (by simpa [hs] using hl)

theorem ownedRows_rows (he : '\n' ∉ e.host) (hp : plan.OneLine) :
    visible (p.rows policy (e, plan)) = [] ∨
      OwnedRows policy e (visible (p.rows policy (e, plan))) := by
  rcases p.rows_eq policy e plan with hr | ⟨lines, hr, ⟨kind, hk⟩, hl⟩
  · exact .inl (by rw [hr]; rfl)
  · have hn : ∀ l ∈ lines, '\n' ∉ l := fun l h =>
      RoutingPlan.newline_not_mem_generatedLines he hp (hl l h).1
    rw [hr]
    exact .inr (ownedRows_indentBlock hn ⟨_, hk, kind.startsBlock_comment⟩
      fun l h => (hl l h).2).visible

/-- The first row of a host at a place is as deep as a member. -/
theorem rows_head (he : '\n' ∉ e.host) (hp : plan.OneLine) :
    ∀ row ∈ (visible (p.rows policy (e, plan))).head?, isShallow 4 row = true := by
  intro row hrow
  rcases p.rows_eq policy e plan with hr | ⟨lines, hr, ⟨kind, hk⟩, hl⟩
  · rw [hr] at hrow
    cases hrow
  · have hn : ∀ l ∈ lines, '\n' ∉ l := fun l h =>
      RoutingPlan.newline_not_mem_generatedLines he hp (hl l h).1
    obtain ⟨rest, rfl⟩ := List.head?_eq_some_iff.mp hk
    have hstart : policy.startsBlock e (kind.comment e) = true := kind.startsBlock_comment
    have hb := not_isBlank_of_startsBlock hstart
    have hb' : isBlank (dropReturn (kind.comment e)) = false := by rw [isBlank_dropReturn, hb]
    obtain ⟨more, hmore⟩ := List.head?_eq_some_iff.mp (head?_indentBlock 4 hn hb)
    have hvisible : isBlank (indentLine 4 (dropReturn (kind.comment e))) = false := by
      rw [isBlank_indentLine, hb']
    rw [hr, hmore, visible_cons_of_not_blank hvisible, List.head?_cons, Option.mem_some_iff] at hrow
    obtain ⟨start, hc⟩ := kind.comment_eq_cons e
    have hindent : indentOf (indentLine 4 (dropReturn (kind.comment e))) = 4 := by
      rw [indentLine_of_not_isBlank 4 hb', indentOf_replicate_append, indentOf_dropReturn, hc]
      simp [indentOf]
    rw [← hrow, isShallow, hvisible, hindent]
    rfl

theorem startsBlock_of_mem_rows (he : '\n' ∉ e.host) (hp : plan.OneLine)
    (h : ∀ l ∈ plan.generatedLines policy e, policy.startsBlock f l = false) {row : Text}
    (hr : row ∈ p.rows policy (e, plan)) : policy.startsBlock f row = false := by
  rcases p.rows_eq policy e plan with hr' | ⟨lines, hr', -, hl⟩
  · rw [hr'] at hr
    cases hr
  · rw [hr'] at hr
    exact startsBlock_of_mem_indentBlock
      (fun l hm => RoutingPlan.newline_not_mem_generatedLines he hp (hl l hm).1)
      (fun l hm => h l (hl l hm).1) hr

end Place

/-- A scan for a host takes its rows out of the blocks of a roster and leaves all others. -/
theorem keptLines_roster {rows : Entity × RoutingPlan → List Text} {roster : Roster}
    {state : ScanState} {rest : List Text} (hs : ScanState.Regular state)
    (hindent : state.memberIndent = 4)
    (hdeep : ∀ h ∈ roster, ∀ row ∈ rows h, isShallow 2 row = false)
    (hown : ∀ h ∈ roster, h.1 = e → rows h = [] ∨ OwnedRows policy e (rows h))
    (hother : ∀ h ∈ roster, h.1 ≠ e → (∀ row ∈ rows h, policy.startsBlock e row = false) ∧
      ∀ row ∈ (rows h).head?, isShallow 4 row = true)
    (hrest : Resumes policy e state rest) :
    Resumes policy e state (roster.flatMap rows ++ rest) ∧
      keptLines policy e state (roster.flatMap rows ++ rest) =
        (roster.filter (·.1 ≠ e)).flatMap rows ++ keptLines policy e state rest := by
  induction roster with
  | nil => exact ⟨hrest, rfl⟩
  | cons h more ih =>
      obtain ⟨hresumes, hkept⟩ := ih (fun g hg => hdeep g (List.mem_cons_of_mem _ hg))
        (fun g hg => hown g (List.mem_cons_of_mem _ hg))
        (fun g hg => hother g (List.mem_cons_of_mem _ hg))
      rw [List.flatMap_cons, List.append_assoc]
      by_cases he : h.1 = e
      · rw [List.filter_cons_of_neg (by simp [he]), ← hkept]
        rcases hown h List.mem_cons_self he with hnil | howned
        · rw [hnil]
          exact ⟨hresumes, rfl⟩
        · exact ⟨resumes_owned_append hs howned _, keptLines_block hs howned hresumes⟩
      · obtain ⟨hfree, hhead⟩ := hother h List.mem_cons_self he
        have hstate : state.enterAll (rows h) = state :=
          ScanState.enterAll_of_deep (hdeep h List.mem_cons_self)
        rw [List.filter_cons_of_pos (by simpa using he), List.flatMap_cons, List.append_assoc,
          keptLines_free_append hs hfree, hstate, hkept]
        refine ⟨?_, rfl⟩
        cases hr : rows h with
        | nil => exact hresumes
        | cons row tail =>
            apply resumes_of_shallow hs
            intro l hl
            have hl' : row = l := by simpa using hl
            rw [hr] at hfree hhead
            rw [← hl', hindent]
            exact ⟨hfree row List.mem_cons_self, hhead row rfl⟩

/-- The three parts with the visible rows of a roster at both places. -/
def rosterSpread (policy : MatchPolicy) (p : Place) (top middle bottom : List Text)
    (roster : Roster) : List Text :=
  spread p top middle bottom fun q => roster.flatMap fun h => visible (q.rows policy h)

/-- The document is the three parts with the blocks of the roster, up to blank lines. -/
structure Shows (fleet : Fleet) (policy : MatchPolicy) (p : Place) (top middle bottom : List Text)
    (roster : Roster) (d : Document) : Prop where
  visible_eq : visible d.lines = rosterSpread policy p top middle bottom roster
  members : ∀ h ∈ roster, h.1 ∈ fleet.hosts ∧ h.2 ∈ fleet.plans h.1
  nodup : (roster.map Prod.fst).Nodup

variable {fleet : Fleet} {d₀ d : Document} {top middle bottom : List Text} {roster : Roster}

theorem isShallow_of_mem_rosterRows {q : Place} {row : Text}
    (h : row ∈ roster.flatMap fun h => visible (q.rows policy h)) : isShallow 2 row = false := by
  obtain ⟨g, -, hr⟩ := List.mem_flatMap.mp h
  exact Place.isShallow_of_mem_rows (mem_visible.mp hr).1

theorem mem_rosterSpread {row : Text} (h : row ∈ rosterSpread policy p top middle bottom roster) :
    row ∈ top ++ middle ++ bottom ∨ ∃ g ∈ roster, ∃ q : Place, row ∈ q.rows policy g := by
  have hrows : ∀ q : Place, (row ∈ roster.flatMap fun h => visible (q.rows policy h)) →
      ∃ g ∈ roster, ∃ q : Place, row ∈ q.rows policy g := by
    intro q hr
    obtain ⟨g, hg, hr⟩ := List.mem_flatMap.mp hr
    exact ⟨g, hg, q, (mem_visible.mp hr).1⟩
  simp only [rosterSpread, spread, List.mem_append] at h ⊢
  rcases h with (((h | h) | h) | h) | h
  · exact .inl (.inl (.inl h))
  · exact .inr (hrows p h)
  · exact .inl (.inl (.inr h))
  · exact .inr (hrows p.other h)
  · exact .inl (.inr h)

/-- Every row of a roster stands in the lines spread with it. -/
theorem mem_rosterSpread_of_rows {g : Entity × RoutingPlan} (hg : g ∈ roster) {q : Place}
    {row : Text} (hr : row ∈ visible (q.rows policy g)) :
    row ∈ rosterSpread policy p top middle bottom roster := by
  have hrow : row ∈ roster.flatMap fun h => visible (q.rows policy h) :=
    List.mem_flatMap.mpr ⟨g, hg, hr⟩
  simp only [rosterSpread, spread, List.mem_append]
  rcases p.eq_or_eq_other q with rfl | rfl
  · exact .inl (.inl (.inl (.inr hrow)))
  · exact .inl (.inr hrow)

/-- A host at the end of a roster has its rows last at both places. -/
theorem rosterSpread_append (h : Entity × RoutingPlan) {blocks : Place → List Text}
    (hr : blocks .routers = (roster.flatMap fun g => visible (Place.routers.rows policy g)) ++
      visible (Place.routers.rows policy h))
    (hs : blocks .services = (roster.flatMap fun g => visible (Place.services.rows policy g)) ++
      visible (Place.services.rows policy h)) :
    spread p top middle bottom blocks =
      rosterSpread policy p top middle bottom (roster ++ [h]) := by
  have hblocks : blocks = fun q => (roster ++ [h]).flatMap fun g => visible (q.rows policy g) := by
    funext q
    rw [List.flatMap_append, List.flatMap_singleton]
    cases q with
    | routers => exact hr
    | services => exact hs
  rw [rosterSpread, hblocks]

namespace Shows

variable (hf : fleet.Apart policy d₀) (hs : Shows fleet policy p top middle bottom roster d)
include hf hs

/-- A host's marker stands in the document exactly when the host is on the roster. -/
theorem contains_marker_iff (hd : visible d₀.lines = top ++ middle ++ bottom)
    (he : e ∈ fleet.hosts) : d.contains e.marker = true ↔ e ∈ roster.map Prod.fst := by
  rw [HostRouting.contains_marker_iff, hs.visible_eq]
  constructor
  · rintro ⟨row, hrow, hm⟩
    have hstart : policy.startsBlock e row = true := startsBlock_of_marker hm
    rcases mem_rosterSpread hrow with hrow | ⟨g, hg, q, hrow⟩
    · rw [← hd] at hrow
      rw [hf.free e he row (mem_visible.mp hrow).1] at hstart
      cases hstart
    · by_contra habsent
      obtain ⟨hhost, hplan⟩ := hs.members g hg
      have hne : e ≠ g.1 := fun h => habsent (h ▸ List.mem_map_of_mem hg)
      have hfree := Place.startsBlock_of_mem_rows (hf.host_oneLine _ hhost)
        (hf.plan_oneLine _ hhost _ hplan) (hf.apart _ hhost _ hplan e he hne) hrow
      rw [hfree] at hstart
      cases hstart
  · intro hmem
    obtain ⟨g, hg, rfl⟩ := List.mem_map.mp hmem
    obtain ⟨hhost, hplan⟩ := hs.members g hg
    obtain ⟨row, hrow, hm⟩ : ∃ row ∈ g.2.routerRows policy g.1, g.1.marker <:+: row :=
      RoutingPlan.exists_marker_mem_routerRows (hf.host_oneLine _ hhost)
    have hvisible : row ∈ visible (Place.routers.rows policy g) :=
      mem_visible.mpr ⟨hrow, Entity.not_isBlank_of_marker_isInfix hm⟩
    exact ⟨row, mem_rosterSpread_of_rows hg hvisible, hm⟩

/-- A host of the roster is refused. -/
theorem addHost_of_present (hd : visible d₀.lines = top ++ middle ++ bottom)
    (he : e ∈ fleet.hosts) (hmem : e ∈ roster.map Prod.fst) (plan : RoutingPlan) :
    d.addHost policy e plan = .ok .alreadyExists :=
  Document.addHost_eq_alreadyExists_iff.mpr ((hs.contains_marker_iff hf hd he).mpr hmem)

/-- An absent host is inserted, and its rows join those of the roster at both places. -/
theorem addHost_of_absent (hl : Layout p top middle bottom)
    (hd : visible d₀.lines = top ++ middle ++ bottom) (he : e ∈ fleet.hosts)
    (hplan : plan ∈ fleet.plans e) (habsent : e ∉ roster.map Prod.fst) :
    ∃ d', d.addHost policy e plan = .ok (.inserted d') ∧
      Shows fleet policy p top middle bottom (roster ++ [(e, plan)]) d' := by
  have hm : d.contains e.marker = false := by
    rw [Bool.eq_false_iff, ne_eq, hs.contains_marker_iff hf hd he]
    exact habsent
  have hmembers : ∀ h ∈ roster ++ [(e, plan)], h.1 ∈ fleet.hosts ∧ h.2 ∈ fleet.plans h.1 :=
    List.forall_mem_append.mpr ⟨hs.members, by simpa using ⟨he, hplan⟩⟩
  have hnodup : ((roster ++ [(e, plan)]).map Prod.fst).Nodup := by
    rw [List.map_append, List.nodup_append]
    refine ⟨hs.nodup, List.pairwise_singleton _ _, ?_⟩
    rintro x hx y hy rfl
    obtain rfl : x = e := by simpa using hy
    exact habsent hx
  have hdeep : ∀ q : Place, ∀ l ∈ roster.flatMap fun h => visible (q.rows policy h),
      isShallow 2 l = false := fun q l hl => isShallow_of_mem_rosterRows hl
  obtain ⟨above, below, hspread, hcut, hput⟩ := hl.exists_cut hdeep .routers
  obtain ⟨routed, hrouted, hv⟩ := Document.insertBlock_of_visible hm
    (hs.visible_eq.trans hspread) hcut (plan.routerBlock policy e)
  rw [hput] at hv
  cases hseparate : plan.separate with
  | true =>
      refine ⟨routed, by simp [Document.addHost, hrouted, hseparate], ?_, hmembers, hnodup⟩
      rw [hv]
      refine rosterSpread_append (e, plan) rfl ?_
      simp [Place.rows, hseparate]
  | false =>
      have hdeep' : ∀ q : Place, ∀ l ∈ if q = .routers then
          (roster.flatMap fun h => visible (q.rows policy h)) ++
            visible (indentBlock (plan.routerBlock policy e) 4)
          else roster.flatMap fun h => visible (q.rows policy h), isShallow 2 l = false := by
        intro q l hmem
        split_ifs at hmem
        · rcases List.mem_append.mp hmem with hmem | hmem
          · exact hdeep q l hmem
          · exact isShallow_of_mem_indentBlock (by decide) (mem_visible.mp hmem).1
        · exact hdeep q l hmem
      obtain ⟨above', below', hspread', hcut', hput'⟩ := hl.exists_cut hdeep' .services
      obtain ⟨d', hserved, hv'⟩ := Document.insertServiceBlock_of_visible (hv.trans hspread') hcut'
        (plan.serviceBlock policy e)
      refine ⟨d', by simp [Document.addHost, hrouted, hseparate, hserved, Except.map], ?_, hmembers,
        hnodup⟩
      rw [hv', hput']
      refine rosterSpread_append (e, plan) rfl ?_
      simp [Place.rows, hseparate]
      rfl

/-- A scan for a host of the fleet takes its rows, and no others, from the blocks at a place. -/
theorem keptLines_rows (he : e ∈ fleet.hosts) (q : Place) {state : ScanState} {rest : List Text}
    (hstate : ScanState.Regular state) (hindent : state.memberIndent = 4)
    (hrest : Resumes policy e state rest) :
    keptLines policy e state ((roster.flatMap fun h => visible (q.rows policy h)) ++ rest) =
      ((roster.filter (·.1 ≠ e)).flatMap fun h => visible (q.rows policy h)) ++
        keptLines policy e state rest := by
  refine (keptLines_roster hstate hindent ?_ ?_ ?_ hrest).2
  · exact fun h _ row hr => Place.isShallow_of_mem_rows (mem_visible.mp hr).1
  · rintro ⟨e, plan⟩ hmem rfl
    obtain ⟨hhost, hplan⟩ := hs.members _ hmem
    exact Place.ownedRows_rows (hf.host_oneLine _ hhost) (hf.plan_oneLine _ hhost _ hplan)
  · intro h hmem hne
    obtain ⟨hhost, hplan⟩ := hs.members _ hmem
    have hone := hf.host_oneLine _ hhost
    have hp := hf.plan_oneLine _ hhost _ hplan
    refine ⟨fun row hr => ?_, Place.rows_head hone hp⟩
    exact Place.startsBlock_of_mem_rows hone hp (hf.apart _ hhost _ hplan e he (Ne.symm hne))
      (mem_visible.mp hr).1

/-- Removing a host strikes it from the roster, whether or not it was on it. -/
theorem removeHost (hl : Layout p top middle bottom)
    (hd : visible d₀.lines = top ++ middle ++ bottom) (he : e ∈ fleet.hosts) :
    Shows fleet policy p top middle bottom (roster.filter (·.1 ≠ e)) (d.removeHost policy e) where
  visible_eq := by
    have hfree : ∀ l ∈ top ++ middle ++ bottom, policy.startsBlock e l = false := by
      intro l hl
      rw [← hd] at hl
      exact hf.free e he l (mem_visible.mp hl).1
    simp only [List.forall_mem_append] at hfree
    obtain ⟨⟨htop, hmiddle⟩, hbottom⟩ := hfree
    have hregular := ScanState.regular_outside.enterAll top
    have hregular' := hregular.enterAll middle
    have hindent : ((ScanState.outside.enterAll top).enterAll middle).memberIndent = 4 := by
      rw [← ScanState.enterAll_append]
      exact hl.lower_indent
    have hend : Resumes policy e ((ScanState.outside.enterAll top).enterAll middle) bottom :=
      resumes_of_shallow_two hregular' (fun l hl => hbottom l (List.mem_of_mem_head? hl))
        hl.lower.below_head
    have hbetween : ∀ rest, Resumes policy e (ScanState.outside.enterAll top) (middle ++ rest) := by
      intro rest
      obtain ⟨l, more, rfl⟩ := List.exists_cons_of_ne_nil hl.middle_ne_nil
      apply resumes_of_shallow_two hregular
      · intro x hx
        exact hmiddle x (List.mem_of_mem_head? (by simpa using hx))
      · intro x hx
        exact hl.middle_head x (by simpa using hx)
    rw [visible_removeHost, hs.visible_eq]
    simp only [rosterSpread, spread, List.append_assoc]
    rw [keptLines_free_append ScanState.regular_outside htop,
      hs.keptLines_rows hf he p hregular hl.upper_indent (hbetween _),
      keptLines_free_append hregular hmiddle,
      hs.keptLines_rows hf he p.other hregular' hindent hend, keptLines_free hregular' hbottom]
  members := fun h hmem => hs.members h (List.mem_of_mem_filter hmem)
  nodup := hs.nodup.sublist (List.filter_sublist.map _)

/-- An edit does to the document what it does to the roster. -/
theorem apply (hl : Layout p top middle bottom)
    (hd : visible d₀.lines = top ++ middle ++ bottom) {edit : HostEdit} (he : fleet.Covers edit) :
    Shows fleet policy p top middle bottom (edit.enroll roster) (edit.apply policy d) := by
  cases edit with
  | add e plan =>
      rw [HostEdit.enroll, HostEdit.apply]
      by_cases hmem : e ∈ roster.map Prod.fst
      · rw [if_pos hmem, hs.addHost_of_present hf hd he.1 hmem plan]
        exact hs
      · obtain ⟨d', hadded, hs'⟩ := hs.addHost_of_absent hf hl hd he.1 he.2 hmem
        rw [if_neg hmem, hadded]
        exact hs'
  | remove e => exact hs.removeHost hf hl hd he

theorem run (hl : Layout p top middle bottom)
    (hd : visible d₀.lines = top ++ middle ++ bottom) {edits : List HostEdit}
    (he : ∀ edit ∈ edits, fleet.Covers edit) :
    Shows fleet policy p top middle bottom (edits.foldl HostEdit.enroll roster)
      (HostEdit.run policy d edits) := by
  induction edits generalizing roster d with
  | nil => exact hs
  | cons edit more ih =>
      exact ih (hs.apply hf hl hd (he edit List.mem_cons_self))
        fun x hx => he x (List.mem_cons_of_mem _ hx)

end Shows

/-- The line above which blocks stand at the place. -/
def Place.point? (d : Document) : Place → Option Nat
  | .routers => d.routerPoint?
  | .services => d.servicePoint?

theorem Place.Cut.point? {above below : List Text} (hc : p.Cut above below)
    (hd : d.lines = above ++ below) : p.point? d = some above.length := by
  cases p with
  | routers => exact Document.routerPoint?_eq_some_iff.mpr ⟨above, below, hd, rfl, hc⟩
  | services =>
      obtain ⟨n, hn, hend⟩ := Document.sectionEnd_of_cut hd hc
      have hn' : d.findHeader? .services 0 = some n := hn
      rw [Place.point?, Document.servicePoint?, Document.serviceSection, hn']
      simp [hn', hend]

/-- Both places have their rows above different lines, whichever place is the upper one. -/
theorem rosterRows_eq {first second : Nat} (hp : p.point? d = some first)
    (ho : p.other.point? d = some second) (hne : first ≠ second) (roster : Roster) (i : Nat) :
    d.rosterRows policy roster i =
      (if i = first then roster.flatMap (Place.rows policy · p) else []) ++
        if i = second then roster.flatMap (Place.rows policy · p.other) else [] := by
  cases p with
  | routers =>
      have hr : d.routerPoint? = some first := hp
      have hs : d.servicePoint? = some second := ho
      simp [Document.rosterRows, hr, hs, Place.other, eq_comm]
  | services =>
      have hs : d.servicePoint? = some first := hp
      have hr : d.routerPoint? = some second := ho
      by_cases hi : i = first
      · have : ¬ second = i := by omega
        simp [Document.rosterRows, hr, hs, hi, hne, hne.symm]
      · simp [Document.rosterRows, hr, hs, hi, Ne.symm hi, Place.other, eq_comm]

/-- The blocks of a roster woven into the document stand where they are spread. -/
theorem visible_withRoster (hl : Layout p top middle bottom)
    (hd : d.lines = top ++ middle ++ bottom) (roster : Roster) :
    visible (d.withRoster policy roster).lines =
      rosterSpread policy p (visible top) (visible middle) (visible bottom) roster := by
  have hpoint : p.point? d = some top.length :=
    hl.upper.point? (by rw [hd, List.append_assoc])
  have hother : p.other.point? d = some (top.length + middle.length) := by
    rw [hl.lower.point? hd, List.length_append]
  have hlength : 0 < middle.length := List.length_pos_of_ne_nil hl.middle_ne_nil
  have hwoven : weave (d.rosterRows policy roster) (fun _ => true)
      (top ++ [] ++ (middle ++ []) ++ bottom) =
      top ++ roster.flatMap (Place.rows policy · p) ++ middle ++
        roster.flatMap (Place.rows policy · p.other) ++ bottom := by
    refine weave_two_places (fun _ => rfl) (fun i => ?_) fun i => ?_
    · simp only [List.length_nil, Bool.true_eq_false, false_iff]
      omega
    · simpa using rosterRows_eq hpoint hother (by omega) roster i
  rw [List.append_nil, List.append_nil, ← hd] at hwoven
  rw [Document.withRoster, hwoven]
  simp only [rosterSpread, spread, visible_append, visible_flatMap]

/-- After any run over hosts that are apart, the visible lines are those of the first document with
the blocks of the hosts now present, each once and in the order of their additions. -/
theorem visible_run (hd : d.Prepared) (hf : fleet.Apart policy d) {edits : List HostEdit}
    (he : ∀ edit ∈ edits, fleet.Covers edit) :
    visible (HostEdit.run policy d edits).lines =
        visible (d.withRoster policy (HostEdit.roster edits)).lines ∧
      ((HostEdit.roster edits).map Prod.fst).Nodup := by
  obtain ⟨p, top, middle, bottom, hlines, hl⟩ := hd.exists_layout
  have hvisible : visible d.lines = visible top ++ visible middle ++ visible bottom := by
    rw [hlines, visible_append, visible_append]
  have hstart : Shows fleet policy p (visible top) (visible middle) (visible bottom) [] d :=
    ⟨by simpa [rosterSpread, spread] using hvisible, by simp, by simp⟩
  have hend := hstart.run hf hl.visible hvisible he
  refine ⟨?_, hend.nodup⟩
  rw [visible_withRoster hl hlines]
  exact hend.visible_eq

end

/-- Two hosts under the strict policy; the one that was added first is removed again. -/
def sampleFirst : Entity := ⟨"a.example".toList, by decide, by decide⟩

def sampleSecond : Entity := ⟨"b.example".toList, by decide, by decide⟩

def samplePlan : RoutingPlan :=
  { backend := "web".toList, frontend := "web".toList, separate := false }

def sampleFleet : Fleet where
  hosts := [sampleFirst, sampleSecond]
  plans _ := [samplePlan]

def sampleSections : Document :=
  ⟨["http:", "  routers:", "", "  services:", "log:"].map String.toList⟩

def sampleEdits : List HostEdit :=
  [.add sampleFirst samplePlan, .add sampleSecond samplePlan, .add sampleFirst samplePlan,
    .remove sampleFirst]

theorem sampleSections_prepared : sampleSections.Prepared where
  routers := by
    have hpoint : sampleSections.insertionPoint 1 SectionHeader.routerSuccessors = 3 := by
      decide +kernel
    refine ⟨1, "  routers:".toList, by decide +kernel, rfl, by decide +kernel, ?_⟩
    intro i l hi hlt hget
    rw [hpoint] at hlt
    obtain rfl : i = 2 := by omega
    obtain rfl : [] = l := by simpa [sampleSections] using hget
    rfl
  services := ⟨3, "  services:".toList, by decide +kernel, rfl, by decide +kernel⟩

theorem sampleFleet_apart : sampleFleet.Apart .fullHost sampleSections where
  host_oneLine := by decide +kernel
  plan_oneLine := by
    intro e _ plan hplan
    rw [List.mem_singleton.mp hplan]
    constructor <;> decide
  free := by decide +kernel
  apart := by decide +kernel

theorem visible_run_sample :
    visible (HostEdit.run .fullHost sampleSections sampleEdits).lines =
      visible (sampleSections.withRoster .fullHost (HostEdit.roster sampleEdits)).lines ∧
        (HostEdit.roster sampleEdits).map Prod.fst = [sampleSecond] :=
  ⟨(visible_run sampleSections_prepared sampleFleet_apart (by decide +kernel)).1, by decide +kernel⟩

end HostRouting
