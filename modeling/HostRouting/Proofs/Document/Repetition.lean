import HostRouting.Proofs.Document.Rereading

/-!
# Adding a host again

An addition is accepted exactly when the marker of the host is nowhere in the document and the
sections that its blocks need are there. It keeps all visible lines and puts the rules of
the host in, so a host without line feeds is refused from then on, in the document
and in what is read back from its text. A host with a line feed is torn apart by its own
block: no line ever holds its marker, and every repetition is accepted.
-/
namespace HostRouting
open Text

variable {policy : MatchPolicy} {e : Entity} {plan : RoutingPlan} {d d' : Document} {l : Text}

theorem newline_not_mem_of_mem_indentBlock {block row : Text} {width : Nat}
    (h : row ∈ indentBlock block width) : '\n' ∉ row := by
  rcases List.mem_append.mp h with h | h
  · obtain ⟨l, hl, rfl⟩ := List.mem_map.mp (mem_of_mem_dropEndWhile _ h)
    have hn := newline_not_mem_of_mem_terminatedLines hl
    cases hb : isBlank l with
    | true =>
        rw [indentLine_of_isBlank _ hb]
        exact List.not_mem_nil
    | false =>
        rw [indentLine_of_not_isBlank _ hb, List.mem_append, not_or, List.mem_replicate]
        exact ⟨fun hc => absurd hc.2 (by decide), hn⟩
  · rw [List.mem_singleton.mp h]
    exact List.not_mem_nil

namespace Document

theorem newline_not_mem_serviceOpening (h : l ∈ d.serviceOpening) : '\n' ∉ l := by
  unfold serviceOpening at h
  split at h
  · cases h
  · rw [List.mem_singleton.mp h]
    decide

/-- The visible lines of a document with a router block are its own and those of the block. -/
theorem mem_visible_insertBlock {block : Text} (h : d.insertBlock e block = .ok (.inserted d')) :
    l ∈ visible d'.lines ↔ l ∈ visible d.lines ∨ l ∈ visible (indentBlock block 4) := by
  obtain ⟨-, above, below, hd, -, hd'⟩ := insertBlock_eq_inserted h
  rw [hd', hd]
  simp only [visible_append, visible_dropEndWhile, List.mem_append]
  tauto

theorem mem_visible_insertServiceBlock {block : Text} (h : d.insertServiceBlock block = .ok d') :
    l ∈ visible d'.lines ↔ l ∈ visible d.lines ∨ l ∈ visible d.serviceOpening ∨
      l ∈ visible (indentBlock block 4) := by
  obtain ⟨above, below, hd, -, hd'⟩ := insertServiceBlock_eq_ok h
  rw [hd', hd]
  simp only [visible_append, visible_dropEndWhile, List.mem_append]
  tauto

/-- An addition takes no visible line away. -/
theorem mem_visible_addHost (h : d.addHost policy e plan = .ok (.inserted d'))
    (hl : l ∈ visible d.lines ∨ l ∈ visible (plan.routerRows policy e)) :
    l ∈ visible d'.lines := by
  obtain ⟨routed, hr, hcase⟩ := addHost_eq_inserted h
  have hrouted : l ∈ visible routed.lines := (mem_visible_insertBlock hr).mpr hl
  rcases hcase with ⟨-, rfl⟩ | ⟨-, hs⟩
  · exact hrouted
  · exact (mem_visible_insertServiceBlock hs).mpr (.inl hrouted)

theorem newline_not_mem_insertBlock {block : Text} (h : d.insertBlock e block = .ok (.inserted d'))
    (hd : ∀ l ∈ d.lines, '\n' ∉ l) : ∀ l ∈ d'.lines, '\n' ∉ l := by
  obtain ⟨-, above, below, hlines, -, hd'⟩ := insertBlock_eq_inserted h
  rw [hlines, List.forall_mem_append] at hd
  rw [hd']
  simp only [List.forall_mem_append]
  exact ⟨⟨fun l hl => hd.1 l (mem_of_mem_dropEndWhile _ hl),
    fun _ => newline_not_mem_of_mem_indentBlock⟩, hd.2⟩

theorem newline_not_mem_insertServiceBlock {block : Text}
    (h : d.insertServiceBlock block = .ok d') (hd : ∀ l ∈ d.lines, '\n' ∉ l) :
    ∀ l ∈ d'.lines, '\n' ∉ l := by
  obtain ⟨above, below, hlines, -, hd'⟩ := insertServiceBlock_eq_ok h
  rw [hlines, List.forall_mem_append] at hd
  rw [hd']
  simp only [List.forall_mem_append]
  exact ⟨⟨fun l hl => hd.1 l (mem_of_mem_dropEndWhile _ hl),
    fun _ => newline_not_mem_serviceOpening, fun _ => newline_not_mem_of_mem_indentBlock⟩, hd.2⟩

/-- No addition puts a line feed into a line, not even that of a host with one. -/
theorem newline_not_mem_addHost (h : d.addHost policy e plan = .ok (.inserted d'))
    (hd : ∀ l ∈ d.lines, '\n' ∉ l) : ∀ l ∈ d'.lines, '\n' ∉ l := by
  obtain ⟨routed, hr, hcase⟩ := addHost_eq_inserted h
  have hrouted := newline_not_mem_insertBlock hr hd
  rcases hcase with ⟨-, rfl⟩ | ⟨-, hs⟩
  · exact hrouted
  · exact newline_not_mem_insertServiceBlock hs hrouted

/-- The document has the sections that blocks of the plan need. -/
structure Takes (d : Document) (plan : RoutingPlan) : Prop where
  routers : ∃ l ∈ visible d.lines, SectionHeader.routers.isOn l = true
  services : plan.separate = false →
    ∃ l ∈ visible d.lines, SectionHeader.services.isOn l = true ∨ SectionHeader.http.isOn l = true

theorem Takes.of_subset {plan' : RoutingPlan} (h : d.Takes plan)
    (hsub : ∀ l ∈ visible d.lines, l ∈ visible d'.lines) (hp : plan'.separate = plan.separate) :
    d'.Takes plan' where
  routers := by
    obtain ⟨l, hl, ho⟩ := h.routers
    exact ⟨l, hsub l hl, ho⟩
  services := by
    intro hs
    obtain ⟨l, hl, ho⟩ := h.services (hp.symm.trans hs)
    exact ⟨l, hsub l hl, ho⟩

theorem exists_insertBlock_iff {block : Text} :
    (∃ d', d.insertBlock e block = .ok (.inserted d')) ↔
      d.contains e.marker = false ∧
        ∃ l ∈ visible d.lines, SectionHeader.routers.isOn l = true := by
  rw [← exists_findHeader?_iff_visible]
  constructor
  · intro hinserted
    obtain ⟨d', h⟩ := hinserted
    obtain ⟨hm, n, hn, -⟩ := exists_findHeader?_of_insertBlock h
    exact ⟨hm, n, hn⟩
  · intro haccepted
    obtain ⟨hm, n, hn⟩ := haccepted
    exact ⟨_, insertBlock_of_findHeader? hm hn block⟩

theorem exists_insertServiceBlock_iff {block : Text} :
    (∃ d', d.insertServiceBlock block = .ok d') ↔
      ∃ l ∈ visible d.lines, SectionHeader.services.isOn l = true ∨
        SectionHeader.http.isOn l = true := by
  simp only [and_or_left, exists_or, ← exists_findHeader?_iff_visible]
  unfold insertServiceBlock
  cases hs : d.findHeader? .services 0 with
  | some n => simp
  | none =>
      cases hh : d.findHeader? .http 0 <;> simp [requireHeader, hh]

/-- An addition is accepted exactly when the host is new and its blocks find their sections. -/
theorem exists_addHost_iff : (∃ d', d.addHost policy e plan = .ok (.inserted d')) ↔
    d.contains e.marker = false ∧ d.Takes plan := by
  constructor
  · intro hadded
    obtain ⟨d', h⟩ := hadded
    obtain ⟨routed, hr, hcase⟩ := addHost_eq_inserted h
    obtain ⟨hm, hrouters⟩ := exists_insertBlock_iff.mp ⟨routed, hr⟩
    refine ⟨hm, hrouters, fun hs => ?_⟩
    rcases hcase with ⟨hs', -⟩ | ⟨-, hserved⟩
    · rw [hs] at hs'
      cases hs'
    · obtain ⟨l, hl, ho⟩ := exists_insertServiceBlock_iff.mp ⟨d', hserved⟩
      refine ⟨l, ((mem_visible_insertBlock hr).mp hl).resolve_right fun hrow => ?_, ho⟩
      have hdeep : isShallow 2 l = false :=
        isShallow_of_mem_indentBlock (by decide) (mem_visible.mp hrow).1
      have hshallow : isShallow 2 l = true := by
        rcases ho with ho | ho <;> exact SectionHeader.isShallow_of_isOn (by decide) ho
      rw [hdeep] at hshallow
      cases hshallow
  · intro haccepted
    obtain ⟨hm, ht⟩ := haccepted
    obtain ⟨routed, hr⟩ := exists_insertBlock_iff.mpr ⟨hm, ht.routers⟩
    have hr' : d.insertBlock e (plan.routerBlock policy e) = .ok (.inserted routed) := hr
    cases hs : plan.separate with
    | true => exact ⟨routed, by simp [addHost, hr', hs]⟩
    | false =>
        obtain ⟨l, hl, ho⟩ := ht.services hs
        have hl' : l ∈ visible routed.lines := (mem_visible_insertBlock hr).mpr (.inl hl)
        obtain ⟨d', hd'⟩ := exists_insertServiceBlock_iff.mpr ⟨l, hl', ho⟩
        have hd'' : routed.insertServiceBlock (plan.serviceBlock policy e) = .ok d' := hd'
        exact ⟨d', by simp [addHost, hr', hs, hd'', Except.map]⟩

/-- The marker of a host without line feeds stands in the document after an addition. -/
theorem contains_marker_addHost (he : '\n' ∉ e.host)
    (h : d.addHost policy e plan = .ok (.inserted d')) : d'.contains e.marker = true := by
  obtain ⟨row, hrow, hm⟩ : ∃ row ∈ plan.routerRows policy e, e.marker <:+: row :=
    RoutingPlan.exists_marker_mem_routerRows he
  refine (contains_marker_iff e d').mpr ⟨row, mem_visible_addHost h (.inr ?_), hm⟩
  exact mem_visible.mpr ⟨hrow, Entity.not_isBlank_of_marker_isInfix hm⟩

/-- An accepted host is refused from then on, whatever the policy and the plan, in the document and
in what is read back from it, if it has no line feed. Otherwise both accept it again. -/
theorem addHost_again (h : d.addHost policy e plan = .ok (.inserted d')) :
    ('\n' ∉ e.host → ∀ policy' plan',
      d'.addHost policy' e plan' = .ok .alreadyExists ∧
        (ofText d'.toText).addHost policy' e plan' = .ok .alreadyExists) ∧
    ('\n' ∈ e.host → (∀ l ∈ d.lines, '\n' ∉ l) → ∀ policy' plan',
      plan'.separate = plan.separate →
        (∃ d'', d'.addHost policy' e plan' = .ok (.inserted d'')) ∧
          ∃ d'', (ofText d'.toText).addHost policy' e plan' = .ok (.inserted d'')) := by
  constructor
  · intro he policy' plan'
    have hm := contains_marker_addHost he h
    refine ⟨addHost_eq_alreadyExists_iff.mpr hm, addHost_eq_alreadyExists_iff.mpr ?_⟩
    rw [contains_marker_ofText_toText he, hm]
  · intro he hd policy' plan' hp
    have htakes : d.Takes plan := (exists_addHost_iff.mp ⟨d', h⟩).2
    have hd' := newline_not_mem_addHost h hd
    have hagain : d'.Takes plan' :=
      htakes.of_subset (fun l hl => mem_visible_addHost h (.inl hl)) hp
    have hreread : (ofText d'.toText).Takes plan' :=
      hagain.of_subset (fun l hl => by rwa [visible_ofText_toText hd']) rfl
    exact ⟨exists_addHost_iff.mpr ⟨contains_marker_of_newline he hd', hagain⟩,
      exists_addHost_iff.mpr ⟨contains_marker_of_newline he
        fun l hl => newline_not_mem_of_mem_ofText hl, hreread⟩⟩

/-- A host with a line feed between its labels. -/
def tornHost : Entity := ⟨"a\nb".toList, by decide, by decide⟩

theorem addHost_again_sample :
    (∃ d', bareSections.addHost .firstLabel shopHost twoServices = .ok (.inserted d') ∧
      d'.addHost .fullHost shopHost twoServices = .ok .alreadyExists ∧
      (ofText d'.toText).addHost .fullHost shopHost twoServices = .ok .alreadyExists) ∧
    ∃ d', bareSections.addHost .firstLabel tornHost twoServices = .ok (.inserted d') ∧
      (∃ d'', d'.addHost .firstLabel tornHost twoServices = .ok (.inserted d'')) ∧
      ∃ d'', (ofText d'.toText).addHost .firstLabel tornHost twoServices =
        .ok (.inserted d'') := by
  have hlines : ∀ l ∈ bareSections.lines, '\n' ∉ l := by decide
  obtain ⟨d₁, h₁⟩ : ∃ d', bareSections.addHost .firstLabel shopHost twoServices =
    .ok (.inserted d') := ⟨_, rfl⟩
  obtain ⟨d₂, h₂⟩ : ∃ d', bareSections.addHost .firstLabel tornHost twoServices =
    .ok (.inserted d') := ⟨_, rfl⟩
  exact ⟨⟨d₁, h₁, (addHost_again h₁).1 (by decide) .fullHost twoServices⟩,
    d₂, h₂, (addHost_again h₂).2 (by decide) hlines .firstLabel twoServices rfl⟩

/-- A host that is accepted and then accepted once more. -/
theorem addHost_accepts_torn_host_twice :
    Entity.ofText "a\nb".toList = .ok tornHost ∧ ∃ d' d'',
      bareSections.addHost .firstLabel tornHost twoServices = .ok (.inserted d') ∧
        d'.addHost .firstLabel tornHost twoServices = .ok (.inserted d'') :=
  ⟨by decide, _, _, rfl, rfl⟩

end Document
end HostRouting
