import HostRouting.Document.Editor
import HostRouting.Proofs.Document.Position
import HostRouting.Proofs.Document.Rendering

/-!
# Where an added host lands

The router block stands at the router point and the service block at the service point of
the document as it was. Inserting the one does not move the other: its rows are no
headers and close no section. Only where both points are one place do the blocks
meet, and then the service block follows the router block without a blank line.
-/
namespace HostRouting
open Text SectionHeader

/-- A block's rows neither open nor close any section that an insertion looks for. -/
theorem neutral_of_deep {h : SectionHeader} {closes : Text → Bool} {rows : List Text}
    (hh : h.indent ≤ 2) (hc : ∀ l, closes l = true → isShallow 2 l = true)
    (hr : ∀ row ∈ rows, isShallow 2 row = false) : Neutral h.isOn closes rows := by
  intro row hrow
  have hdeep := hr row hrow
  constructor
  · rw [Bool.eq_false_iff]
    intro ho
    rw [isShallow_of_isOn hh ho] at hdeep
    cases hdeep
  · rw [Bool.eq_false_iff]
    intro ho
    rw [hc row ho] at hdeep
    cases hdeep

theorem isShallow_of_isBlank {n : Nat} {line : Text} (h : isBlank line = true) :
    isShallow n line = false := by
  simp [isShallow, h]

/-- A blank line neither opens nor closes any section that an insertion looks for. -/
theorem neutral_of_isBlank {h : SectionHeader} {closes : Text → Bool} (hh : h.indent ≤ 2)
    (hc : ∀ l, closes l = true → isShallow 2 l = true) {line : Text} (hb : isBlank line = true) :
    h.isOn line = false ∧ closes line = false := by
  have hn : Neutral h.isOn closes [line] :=
    neutral_of_deep hh hc (by simp [isShallow_of_isBlank hb])
  exact hn line List.mem_cons_self

namespace Document

variable {d d' : Document} {e : Entity} {policy : MatchPolicy} {plan : RoutingPlan}
  {above below : List Text}

/-- The section at whose end a service block goes. -/
def serviceSection (d : Document) : SectionHeader :=
  match d.findHeader? .services 0 with
  | some _ => .services
  | none => .http

/-- What is written above a service block: the header of its section where that is missing. -/
def serviceOpening (d : Document) : List Text :=
  match d.findHeader? .services 0 with
  | some _ => []
  | none => [servicesLine]

/-- The line before which a router block goes. -/
def routerPoint? (d : Document) : Option Nat :=
  (d.findHeader? .routers 0).map fun n => d.insertionPoint n routerSuccessors

/-- The line before which a service block goes. -/
def servicePoint? (d : Document) : Option Nat :=
  (d.findHeader? d.serviceSection 0).map d.sectionEnd

/-- The lines are divided where a router block goes. -/
def RouterCut (above below : List Text) : Prop :=
  Cut SectionHeader.routers.isOn closesRouters above below

/-- The lines are divided at the end of a section of services, or of what stands for it. -/
def SectionCut (h : SectionHeader) (above below : List Text) : Prop :=
  Cut h.isOn (isShallow h.indent) above below

theorem routerPoint?_eq_some_iff {p : Nat} : d.routerPoint? = some p ↔
    ∃ above below, d.lines = above ++ below ∧ above.length = p ∧ RouterCut above below := by
  constructor
  · intro h
    obtain ⟨n, hn, rfl⟩ := Option.map_eq_some_iff.mp h
    obtain ⟨above, below, hd, hl, hc⟩ := cut_insertionPoint hn
    exact ⟨above, below, hd, hl, hc⟩
  · rintro ⟨above, below, hd, rfl, hc⟩
    obtain ⟨n, hn, hp⟩ := insertionPoint_of_cut hd hc
    rw [routerPoint?, hn, Option.map_some, hp]

theorem servicePoint?_eq_some_iff {q : Nat} : d.servicePoint? = some q ↔
    ∃ above below, d.lines = above ++ below ∧ above.length = q ∧
      SectionCut d.serviceSection above below := by
  constructor
  · intro h
    obtain ⟨n, hn, rfl⟩ := Option.map_eq_some_iff.mp h
    obtain ⟨above, below, hd, hl, hc⟩ := cut_sectionEnd hn
    exact ⟨above, below, hd, hl, hc⟩
  · rintro ⟨above, below, hd, rfl, hc⟩
    obtain ⟨n, hn, hp⟩ := sectionEnd_of_cut hd hc
    rw [servicePoint?, hn, Option.map_some, hp]

theorem splice_of_append (hd : d.lines = above ++ below) (rows : List Text) :
    d.splice above.length rows = ⟨dropEndWhile isBlank above ++ rows ++ below⟩ := by
  rw [splice, hd, List.take_left, List.drop_left]

theorem insertBlock_of_findHeader? {n : Nat} (hm : d.contains e.marker = false)
    (hn : d.findHeader? .routers 0 = some n) (block : Text) : d.insertBlock e block =
      .ok (.inserted (d.splice (d.insertionPoint n routerSuccessors)
        (indentBlock block SectionHeader.routers.memberIndent))) := by
  simp [insertBlock, hm, requireHeader, hn]

theorem exists_findHeader?_of_insertBlock {block : Text}
    (h : d.insertBlock e block = .ok (.inserted d')) :
    d.contains e.marker = false ∧ ∃ n, d.findHeader? .routers 0 = some n ∧
      d' = d.splice (d.insertionPoint n routerSuccessors)
        (indentBlock block SectionHeader.routers.memberIndent) := by
  cases hm : d.contains e.marker with
  | true => simp [insertBlock, hm] at h
  | false =>
      cases hn : d.findHeader? .routers 0 with
      | none => simp [insertBlock, hm, requireHeader, hn] at h
      | some n =>
          rw [insertBlock_of_findHeader? hm hn, Except.ok.injEq, Insertion.inserted.injEq] at h
          exact ⟨rfl, n, rfl, h.symm⟩

/-- A host whose marker is nowhere is inserted at the router point. -/
theorem insertBlock_of_cut (hm : d.contains e.marker = false) (hd : d.lines = above ++ below)
    (hc : RouterCut above below) (block : Text) : d.insertBlock e block =
      .ok (.inserted ⟨dropEndWhile isBlank above ++ indentBlock block 4 ++ below⟩) := by
  obtain ⟨n, hn, hp⟩ := insertionPoint_of_cut hd hc
  rw [insertBlock_of_findHeader? hm hn, hp, splice_of_append hd]
  rfl

theorem insertBlock_eq_inserted {block : Text} (h : d.insertBlock e block = .ok (.inserted d')) :
    d.contains e.marker = false ∧ ∃ above below, d.lines = above ++ below ∧
      RouterCut above below ∧
      d'.lines = dropEndWhile isBlank above ++ indentBlock block 4 ++ below := by
  obtain ⟨hm, n, hn, -⟩ := exists_findHeader?_of_insertBlock h
  obtain ⟨above, below, hd, -, hc⟩ := cut_insertionPoint hn
  rw [insertBlock_of_cut hm hd hc, Except.ok.injEq, Insertion.inserted.injEq] at h
  exact ⟨hm, above, below, hd, hc, by rw [← h]⟩

theorem insertServiceBlock_of_findHeader? {n : Nat} (hn : d.findHeader? .services 0 = some n)
    (block : Text) : d.insertServiceBlock block =
      .ok (d.splice (d.sectionEnd n) (indentBlock block SectionHeader.services.memberIndent)) := by
  simp [insertServiceBlock, hn]

theorem insertServiceBlock_of_cut (hd : d.lines = above ++ below)
    (hc : SectionCut d.serviceSection above below) (block : Text) : d.insertServiceBlock block =
      .ok ⟨dropEndWhile isBlank above ++ (d.serviceOpening ++ indentBlock block 4) ++ below⟩ := by
  obtain ⟨n, hn, hp⟩ := sectionEnd_of_cut hd hc
  unfold insertServiceBlock serviceOpening
  unfold serviceSection at hn
  cases hf : d.findHeader? .services 0 with
  | some m =>
      rw [hf] at hn
      obtain rfl : m = n := by simpa [hf] using hn
      dsimp only
      rw [hp, splice_of_append hd]
      rfl
  | none =>
      rw [hf] at hn
      dsimp only at hn ⊢
      rw [requireHeader, hn]
      dsimp only
      rw [hp, splice_of_append hd]
      rfl

theorem insertServiceBlock_eq_ok {block : Text} (h : d.insertServiceBlock block = .ok d') :
    ∃ above below, d.lines = above ++ below ∧ SectionCut d.serviceSection above below ∧
      d'.lines =
        dropEndWhile isBlank above ++ (d.serviceOpening ++ indentBlock block 4) ++ below := by
  have hs : ∃ n, d.findHeader? d.serviceSection 0 = some n := by
    unfold serviceSection
    unfold insertServiceBlock at h
    cases hf : d.findHeader? .services 0 with
    | some n => exact ⟨n, hf⟩
    | none =>
        rw [hf] at h
        dsimp only at h ⊢
        cases hh : d.findHeader? .http 0 with
        | some n => exact ⟨n, rfl⟩
        | none =>
            rw [requireHeader, hh] at h
            cases h
  obtain ⟨n, hn⟩ := hs
  obtain ⟨above, below, hd, _, hc⟩ := cut_sectionEnd hn
  rw [insertServiceBlock_of_cut hd hc, Except.ok.injEq] at h
  exact ⟨above, below, hd, hc, by rw [← h]⟩

theorem addHost_eq_inserted (h : d.addHost policy e plan = .ok (.inserted d')) :
    ∃ routed, d.insertBlock e (plan.routerBlock policy e) = .ok (.inserted routed) ∧
      (plan.separate = true ∧ d' = routed ∨ plan.separate = false ∧
        routed.insertServiceBlock (plan.serviceBlock policy e) = .ok d') := by
  unfold addHost at h
  cases hr : d.insertBlock e (plan.routerBlock policy e) with
  | error error => simp [hr] at h
  | ok result =>
      cases result with
      | alreadyExists => simp [hr] at h
      | inserted routed =>
          refine ⟨routed, rfl, ?_⟩
          simp only [hr] at h
          split_ifs at h with hs
          · rw [Except.ok.injEq, Insertion.inserted.injEq] at h
            exact .inl ⟨hs, h.symm⟩
          · refine .inr ⟨by simpa using hs, ?_⟩
            cases hi : routed.insertServiceBlock (plan.serviceBlock policy e) with
            | error error =>
                rw [hi] at h
                cases h
            | ok doc =>
                rw [hi] at h
                cases h
                rfl

/-- A host is refused as present exactly when its marker stands in the document. -/
theorem addHost_eq_alreadyExists_iff :
    d.addHost policy e plan = .ok .alreadyExists ↔ d.contains e.marker = true := by
  unfold addHost insertBlock
  cases hm : d.contains e.marker with
  | true => simp
  | false =>
      simp only [Bool.false_eq_true, ↓reduceIte, iff_false]
      cases d.requireHeader .routers with
      | error error => simp
      | ok line =>
          dsimp only
          split_ifs
          · simp
          · generalize insertServiceBlock _ _ = served
            cases served <;> simp [Except.map]

theorem indent_serviceSection_le (d : Document) : d.serviceSection.indent ≤ 2 := by
  unfold serviceSection
  split <;> decide

/-- Lines put in above or below that are no headers of services leave the section as it was. -/
theorem serviceSection_congr
    (h : (∀ l ∈ d.lines, SectionHeader.services.isOn l = false) ↔
      ∀ l ∈ d'.lines, SectionHeader.services.isOn l = false) :
    d'.serviceSection = d.serviceSection ∧ d'.serviceOpening = d.serviceOpening := by
  unfold serviceSection serviceOpening
  rw [← findHeader?_eq_none_iff, ← findHeader?_eq_none_iff] at h
  cases hd : d.findHeader? .services 0 with
  | none => simp [h.mp hd]
  | some n =>
      cases hd' : d'.findHeader? .services 0 with
      | none => simp [h.mpr hd'] at hd
      | some m => simp

/-- Replacing rows that are no headers by such rows leaves the section of services as it was. -/
theorem serviceSection_of_deep {xs ys rows rows' : List Text} (hd : d.lines = xs ++ rows ++ ys)
    (hd' : d'.lines = xs ++ rows' ++ ys) (hr : ∀ l ∈ rows, isShallow 2 l = false)
    (hr' : ∀ l ∈ rows', isShallow 2 l = false) :
    d'.serviceSection = d.serviceSection ∧ d'.serviceOpening = d.serviceOpening := by
  have hoff : ∀ {rows : List Text}, (∀ l ∈ rows, isShallow 2 l = false) →
      ∀ l ∈ rows, SectionHeader.services.isOn l = false := by
    intro rows hr l hl
    have hn : Neutral SectionHeader.services.isOn (isShallow 2) rows :=
      neutral_of_deep (by decide) (fun _ h => h) hr
    exact (hn l hl).1
  apply serviceSection_congr
  rw [hd, hd']
  simp only [List.forall_mem_append]
  exact ⟨fun h => ⟨⟨h.1.1, hoff hr'⟩, h.2⟩, fun h => ⟨⟨h.1.1, hoff hr⟩, h.2⟩⟩

theorem serviceOpening_head (d : Document) :
    ∀ l ∈ d.serviceOpening.head?, isShallow 2 l = true := by
  unfold serviceOpening
  split
  · simp
  · decide

theorem startsBlock_of_mem_serviceOpening (d : Document) :
    ∀ l ∈ d.serviceOpening, policy.startsBlock e l = false := by
  unfold serviceOpening
  split
  · simp
  · simpa using startsBlock_servicesLine

theorem RouterCut.bottom_head {above below : List Text} (h : RouterCut above below) :
    ∀ l ∈ below.head?, isShallow 2 l = true :=
  fun l hl => SectionHeader.isShallow_of_closesRouters (h.closed l hl)

theorem SectionCut.bottom_head {h : SectionHeader} (hh : h.indent ≤ 2) {above below : List Text}
    (hc : SectionCut h above below) : ∀ l ∈ below.head?, isShallow 2 l = true :=
  fun l hl => isShallow_mono hh (hc.closed l hl)

/-- A document with the sections that additions need. -/
def bareSections : Document := ⟨["http:", "  routers:", "  services:"].map String.toList⟩

def shopHost : Entity := ⟨"shop.example".toList, by decide, by decide⟩

def twoServices : RoutingPlan := { backend := "api".toList, frontend := "web".toList }

end Document
end HostRouting
