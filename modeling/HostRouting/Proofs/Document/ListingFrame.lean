import HostRouting.Proofs.Document.Listing

/-!
# The bindings beside an added host

Where no line reads `services:` but the headers that insertions look for, the reader of bindings
stands outside of all sections or in one whose header is indented two. Between the header of routers
and the place of a router block it is outside, and no generated line opens a section, so the routers
of a host are not read, whatever their plan names. A service block is read as its one binding, or
under a header that does not read `services:` not at all. So the bindings that were listed stay
listed, in their order, and at most the one of the added host comes between them.
-/
namespace HostRouting
open Text BindingState

namespace BindingState

variable {state : BindingState} {line : Text} {lines : List Text}

/-- A reader outside passes over lines that open no section. -/
theorem scan_outside (h : ∀ l ∈ lines, trim l ≠ "services:".toList) (rest : List Text) :
    outside.scan (lines ++ rest) = outside.scan rest := by
  induction lines with
  | nil => rfl
  | cons line more ih =>
      have hstep : outside.step line = (outside, none) :=
        congrArg (·, none) (opening_of_ne (h line List.mem_cons_self))
      rw [List.cons_append, scan, hstep]
      exact ih fun l hl => h l (List.mem_cons_of_mem _ hl)

/-- The reader stands outside, or in a section whose header is indented two. -/
def Nested (state : BindingState) : Prop := ∀ h, state.header? = some h → h = 2

theorem nested_outside : outside.Nested := fun _ hs => nomatch hs

theorem Nested.wide (hs : state.Nested) : state.Wide := fun h hh => (hs h hh).ge

theorem Nested.step (hs : state.Nested)
    (hl : trim line = "services:".toList → SectionHeader.services.isOn line = true) :
    (state.step line).1.Nested := by
  intro h hh
  by_cases hin : ∃ i, state.header? = some i ∧ isShallow i line = false
  · obtain ⟨i, hi, hdeep⟩ := hin
    rw [header?_step hi hdeep] at hh
    obtain rfl : i = h := Option.some.inj hh
    exact hs i hi
  · simp only [not_exists, not_and, Bool.not_eq_false] at hin
    rw [step_opening hin, header?_opening] at hh
    obtain ⟨htrim, rfl⟩ := hh
    exact SectionHeader.indentOf_of_isOn (hl htrim)

theorem Nested.after (hs : state.Nested)
    (hlines : ∀ l ∈ lines, trim l = "services:".toList → SectionHeader.services.isOn l = true) :
    (state.after lines).Nested := by
  induction lines generalizing state with
  | nil => exact hs
  | cons line rest ih =>
      exact ih (hs.step (hlines line List.mem_cons_self))
        fun l hl => hlines l (List.mem_cons_of_mem _ hl)

/-- The header of routers ends a section of services, and what may stand below it opens none. -/
theorem step_of_routerPhase {phase : Phase} (hs : state.Nested)
    (hl : trim line = "services:".toList → SectionHeader.services.isOn line = true)
    (hin : phase = .inside → state = outside)
    (hphase : phase.step SectionHeader.routers.isOn SectionHeader.closesRouters line = .inside) :
    (state.step line).1 = outside := by
  cases phase with
  | after => cases hphase
  | inside =>
      have hopen : SectionHeader.closesRouters line = false := by
        cases hc : SectionHeader.closesRouters line with
        | false => rfl
        | true => simp [Phase.step, hc] at hphase
      rw [hin rfl]
      refine opening_of_ne fun htrim => ?_
      have hcloses : SectionHeader.closesRouters line = true :=
        List.any_eq_true.mpr ⟨.services, by decide, hl htrim⟩
      rw [hopen] at hcloses
      cases hcloses
  | before =>
      have hon : SectionHeader.routers.isOn line = true := by
        cases ho : SectionHeader.routers.isOn line with
        | true => rfl
        | false => simp [Phase.step, ho] at hphase
      have hleft : ∀ h, state.header? = some h → isShallow h line = true := by
        intro h hh
        rw [hs h hh]
        exact SectionHeader.isShallow_of_isOn (by decide) hon
      rw [step_opening hleft]
      refine opening_of_ne fun htrim => ?_
      have hservices := hl htrim
      rw [SectionHeader.services_isOn_of_routers hon] at hservices
      cases hservices

theorem after_of_routerPhase {phase : Phase} (hs : state.Nested)
    (hlines : ∀ l ∈ lines, trim l = "services:".toList → SectionHeader.services.isOn l = true)
    (hin : phase = .inside → state = outside)
    (hread : Phase.read SectionHeader.routers.isOn SectionHeader.closesRouters phase lines =
      .inside) : state.after lines = outside := by
  induction lines generalizing phase state with
  | nil => exact hin hread
  | cons line rest ih =>
      have hline := hlines line List.mem_cons_self
      exact ih (hs.step hline) (fun l hl => hlines l (List.mem_cons_of_mem _ hl))
        (step_of_routerPhase hs hline hin) hread

end BindingState

theorem closed_indentBlock {lines : List Text} (hn : ∀ l ∈ lines, '\n' ∉ l)
    (h : ∀ l ∈ lines, trim l ≠ "services:".toList) :
    ∀ row ∈ indentBlock (ofLines lines) 4, trim row ≠ "services:".toList := by
  intro row hr
  rcases exists_of_mem_indentBlock hn hr with rfl | ⟨l, hl, rfl⟩
  · decide
  · rw [trim_row]
    exact h l hl

/-- Of two lists that are read one after the other the second adds the names that are new. -/
theorem firstOfEachName_append (xs ys : List ServiceBinding) : firstOfEachName (xs ++ ys) =
    firstOfEachName xs ++
      (firstOfEachName ys).filter fun b => b.name ∉ xs.map ServiceBinding.name := by
  induction xs with
  | nil => simp [firstOfEachName]
  | cons x rest ih =>
      rw [List.cons_append, firstOfEachName, ih, List.filter_append, firstOfEachName,
        List.cons_append, List.filter_filter]
      refine congrArg (x :: (firstOfEachName rest).filter (·.name ≠ x.name) ++ ·) ?_
      refine List.filter_congr fun b _ => ?_
      rw [List.map_cons, Bool.eq_iff_iff, Bool.and_eq_true]
      simp only [decide_eq_true_eq, List.mem_cons, not_or, ne_eq]

/-- A binding of a new name comes in where it is read, and all others stay in their order. -/
theorem firstOfEachName_insert {front back : List ServiceBinding} {b : ServiceBinding}
    (h : ∀ c ∈ front ++ back, c.name ≠ b.name) : ∃ earlier later,
      firstOfEachName (front ++ back) = earlier ++ later ∧
      firstOfEachName (front ++ b :: back) = earlier ++ b :: later ∧ (back = [] → later = []) := by
  rw [List.forall_mem_append] at h
  have hback : (firstOfEachName back).filter (·.name ≠ b.name) = firstOfEachName back :=
    List.filter_eq_self.mpr fun c hc => decide_eq_true (forall_name_ne_iff.mpr h.2 c hc)
  have hnew : b.name ∉ front.map ServiceBinding.name := by
    intro hmem
    obtain ⟨c, hc, hname⟩ := List.mem_map.mp hmem
    exact h.1 c hc hname
  refine ⟨firstOfEachName front,
    (firstOfEachName back).filter fun c => c.name ∉ front.map ServiceBinding.name,
    firstOfEachName_append front back, ?_, ?_⟩
  · rw [firstOfEachName_append, firstOfEachName, hback,
      List.filter_cons_of_pos (by simpa using hnew)]
  · rintro rfl
    rfl

namespace Document

variable {d d' : Document} {e : Entity} {policy : MatchPolicy} {plan : RoutingPlan}

/-- A block that opens no section is not read among the routers. -/
theorem scan_insertBlock_of_closed {block : Text}
    (hfound : ∀ l ∈ d.lines, trim l = "services:".toList → SectionHeader.services.isOn l = true)
    (hrows : ∀ row ∈ indentBlock block 4, trim row ≠ "services:".toList)
    (h : d.insertBlock e block = .ok (.inserted d')) :
    outside.scan d'.lines = outside.scan d.lines := by
  obtain ⟨-, above, below, hd, hc, hd'⟩ := insertBlock_eq_inserted h
  have hafter : outside.after above = outside :=
    after_of_routerPhase nested_outside
      (fun l hl => hfound l (by rw [hd]; exact List.mem_append_left _ hl)) (fun _ => rfl) hc.inside
  rw [hd', List.append_assoc, scan_dropEndWhile_append, scan_append, hafter, scan_outside hrows,
    hd, scan_append, hafter]

theorem mem_lines_of_insertBlock {block l : Text} (h : d.insertBlock e block = .ok (.inserted d'))
    (hl : l ∈ d'.lines) : l ∈ d.lines ∨ l ∈ indentBlock block 4 := by
  obtain ⟨-, above, below, hd, -, hd'⟩ := insertBlock_eq_inserted h
  rw [hd', List.mem_append, List.mem_append] at hl
  rw [hd, List.mem_append]
  rcases hl with (hl | hl) | hl
  · exact .inl (.inl (mem_of_mem_dropEndWhile _ hl))
  · exact .inr hl
  · exact .inl (.inr hl)

/-- A service block is read as its binding at the place where it stands, or is not read at all: then
the header of its section does not read `services:`, and the reader has not come in. -/
theorem scan_insertServiceBlock_cases (he : '\n' ∉ e.host) (hb : '\n' ∉ plan.backend)
    (hs : plan.separate = false)
    (hfound : ∀ l ∈ d.lines, trim l = "services:".toList → SectionHeader.services.isOn l = true)
    (h : d.insertServiceBlock (plan.serviceBlock policy e) = .ok d') :
    ∃ above below front, d.lines = above ++ below ∧ SectionCut d.serviceSection above below ∧
      outside.scan d.lines = front ++ outside.scan below ∧
      (outside.scan d'.lines = outside.scan d.lines ∨ outside.scan d'.lines =
        front ++ ((plan.binding? policy e).toList ++ outside.scan below)) := by
  obtain ⟨above, below, hd, hc, hd'⟩ := insertServiceBlock_eq_ok h
  have hnested : (outside.after above).Nested :=
    nested_outside.after fun l hl => hfound l (by rw [hd]; exact List.mem_append_left _ hl)
  have hbelow := hc.bottom_head d.indent_serviceSection_le
  have hscan : outside.scan d'.lines = outside.emitted above ++
      (outside.after above).scan (d.serviceOpening ++ plan.serviceRows policy e ++ below) := by
    rw [hd', List.append_assoc, scan_dropEndWhile_append, scan_append]
    rfl
  refine ⟨above, below, outside.emitted above ++ (outside.after above).pending.toList, hd, hc,
    ?_, ?_⟩
  · rw [hd, scan_append, hnested.wide.scan hbelow, List.append_assoc]
  · by_cases hin : ∀ n, d.findHeader? .services 0 = some n →
        (outside.after above).header? = some 2
    · rw [hscan, scan_serviceOpening he hb hnested.wide hin hbelow]
      exact .inr (List.append_assoc _ _ _).symm
    · simp only [not_forall] at hin
      obtain ⟨n, hn, hout⟩ := hin
      have hafter : outside.after above = outside := by
        apply eq_outside
        cases hh : (outside.after above).header? with
        | none => rfl
        | some i => exact absurd (by rw [hh, hnested i hh]) hout
      have hopening : d.serviceOpening = [] := by simp [serviceOpening, hn]
      have hrows : ∀ row ∈ plan.serviceRows policy e, trim row ≠ "services:".toList :=
        closed_indentBlock (fun l hl => RoutingPlan.newline_not_mem_serviceLines he hb hl)
          fun l hl => (GeneratedLine.of_mem_serviceLines hs hl).closed
      left
      rw [hscan, hopening, List.nil_append, hafter, scan_outside hrows, hd, scan_append, hafter]

/-- A service block lists its binding once, at one place among those that were listed. -/
theorem bindings_insertServiceBlock (he : '\n' ∉ e.host) (hb : '\n' ∉ plan.backend)
    (hs : plan.separate = false)
    (hfound : ∀ l ∈ d.lines, trim l = "services:".toList → SectionHeader.services.isOn l = true)
    (hfresh : ∀ b ∈ d.bindings, b.name ≠ BlockKind.service.name (policy.tag e))
    (h : d.insertServiceBlock (plan.serviceBlock policy e) = .ok d') :
    d'.bindings = d.bindings ∨ ∃ above below earlier later, d.lines = above ++ below ∧
      SectionCut d.serviceSection above below ∧ d.bindings = earlier ++ later ∧
      d'.bindings = earlier ++ ⟨BlockKind.service.name (policy.tag e), plan.serverUrl⟩ :: later ∧
      (outside.scan below = [] → later = []) := by
  obtain ⟨above, below, front, hd, hc, hscan, hscan' | hscan'⟩ :=
    scan_insertServiceBlock_cases he hb hs hfound h
  · left
    rw [bindings, bindings, hscan']
  · by_cases hkey : reservedKeys.any (occursIn · (policy.tag e)) = true
    · left
      rw [RoutingPlan.binding?, if_pos hkey] at hscan'
      rw [bindings, bindings, hscan', hscan]
      rfl
    · right
      rw [RoutingPlan.binding?, if_neg hkey] at hscan'
      have hnew : ∀ c ∈ front ++ outside.scan below,
          c.name ≠ BlockKind.service.name (policy.tag e) := by
        rw [← hscan]
        exact forall_name_ne_iff.mp hfresh
      obtain ⟨earlier, later, hbefore, hafter, hlater⟩ := firstOfEachName_insert
        (b := ⟨BlockKind.service.name (policy.tag e), plan.serverUrl⟩) hnew
      refine ⟨above, below, earlier, later, hd, hc, ?_, ?_, hlater⟩
      · rw [bindings, hscan, hbefore]
      · rw [bindings, hscan']
        exact hafter

/-- Behind the section that receives services no line reads `services:`. -/
def ListsLast (d : Document) : Prop :=
  ∀ q, d.servicePoint? = some q → ∀ l ∈ d.lines.drop q, trim l ≠ "services:".toList

/-- Lines that are not shallow do not bring a binding behind that section. -/
theorem ListsLast.scan_below {above' below' : List Text} (hlast : d.ListsLast)
    (hsame : d'.lines.filter (isShallow 2) = d.lines.filter (isShallow 2))
    (hfound : ∀ l ∈ d'.lines, trim l = "services:".toList → SectionHeader.services.isOn l = true)
    (hd' : d'.lines = above' ++ below') (hc' : SectionCut d'.serviceSection above' below') :
    outside.scan below' = [] := by
  obtain ⟨above, below, hd, hc, -, hbelow⟩ := exists_serviceCut_of_filter hsame hd' hc'
  have hnone : ∀ l ∈ below, trim l ≠ "services:".toList := by
    intro l hl
    refine hlast above.length (servicePoint?_eq_some_iff.mpr ⟨above, below, hd, rfl, hc⟩) l ?_
    rwa [hd, List.drop_left]
  have hclosed : ∀ l ∈ below', trim l ≠ "services:".toList := by
    intro l hl htrim
    have hon := hfound l (by rw [hd']; exact List.mem_append_right _ hl) htrim
    have hmem : l ∈ below'.filter (isShallow 2) :=
      List.mem_filter.mpr ⟨hl, SectionHeader.isShallow_of_isOn (by decide) hon⟩
    rw [hbelow] at hmem
    exact hnone l (List.mem_of_mem_filter hmem) htrim
  have hscan := scan_outside hclosed []
  rwa [List.append_nil] at hscan

/-- Adding a host leaves the bindings that were listed, in their order. A shared service comes in
at one place, and as the last one if nothing is listed behind the section that receives it. -/
theorem addHost_keeps_bindings (he : '\n' ∉ e.host) (hp : plan.OneLine)
    (hfound : ∀ l ∈ d.lines, trim l = "services:".toList → SectionHeader.services.isOn l = true)
    (hfresh : ∀ b ∈ d.bindings, b.name ≠ BlockKind.service.name (policy.tag e))
    (h : d.addHost policy e plan = .ok (.inserted d')) :
    (plan.separate = true → d'.bindings = d.bindings) ∧
    (plan.separate = false → d'.bindings = d.bindings ∨
      ∃ earlier later, d.bindings = earlier ++ later ∧
        d'.bindings =
          earlier ++ ⟨BlockKind.service.name (policy.tag e), plan.serverUrl⟩ :: later ∧
        (d.ListsLast → later = [])) := by
  obtain ⟨routed, hrouted, hcase⟩ := addHost_eq_inserted h
  have hrows : ∀ row ∈ indentBlock (plan.routerBlock policy e) 4, trim row ≠ "services:".toList :=
    closed_indentBlock (fun l hl => RoutingPlan.newline_not_mem_routerLines he hp hl)
      fun l hl => (GeneratedLine.of_mem_routerLines hl).closed
  have hsame : routed.bindings = d.bindings := by
    rw [bindings, bindings, scan_insertBlock_of_closed hfound hrows hrouted]
  constructor
  · intro hs
    rcases hcase with ⟨-, rfl⟩ | ⟨hs', -⟩
    · exact hsame
    · rw [hs] at hs'
      cases hs'
  · intro hs
    rcases hcase with ⟨hs', -⟩ | ⟨-, hserved⟩
    · rw [hs] at hs'
      cases hs'
    · have hfound' : ∀ l ∈ routed.lines, trim l = "services:".toList →
          SectionHeader.services.isOn l = true := by
        intro l hl htrim
        rcases mem_lines_of_insertBlock hrouted hl with hl | hl
        · exact hfound l hl htrim
        · exact absurd htrim (hrows l hl)
      rw [← hsame] at hfresh ⊢
      obtain hkept | ⟨above, below, earlier, later, hd, hc, hbefore, hafter, hlater⟩ :=
        bindings_insertServiceBlock he hp.backend hs hfound' hfresh hserved
      · exact .inl hkept
      · refine .inr ⟨earlier, later, hbefore, hafter, fun hlast => hlater ?_⟩
        exact hlast.scan_below (filter_insertBlock hrouted) hfound' hd hc

theorem addHost_keeps_bindings_sample :
    (∃ d', blogListed.addHost .firstLabel shopHost twoServices = .ok (.inserted d') ∧
      d'.bindings = blogListed.bindings) ∧
    ∃ d', blogListed.addHost .firstLabel shopHost sharedPlan = .ok (.inserted d') ∧
      d'.bindings =
        blogListed.bindings ++ [⟨"shop-service".toList, "http://api:8080".toList⟩] := by
  have hfound : ∀ l ∈ blogListed.lines, trim l = "services:".toList →
      SectionHeader.services.isOn l = true := by decide
  have hfresh : ∀ b ∈ blogListed.bindings,
      b.name ≠ BlockKind.service.name (MatchPolicy.firstLabel.tag shopHost) := by decide
  have hlast : blogListed.ListsLast := by
    intro q hq
    obtain rfl : 7 = q := Option.some.inj hq
    decide
  have htwo : twoServices.OneLine := ⟨by decide, by decide, by decide, by decide⟩
  have hshared : sharedPlan.OneLine := ⟨by decide, by decide, by decide, by decide⟩
  obtain ⟨d', h, -⟩ : ∃ d',
      blogListed.addHost .firstLabel shopHost twoServices = .ok (.inserted d') ∧ True := by
    decide +kernel
  obtain ⟨d'', h', hmore⟩ : ∃ d'',
      blogListed.addHost .firstLabel shopHost sharedPlan = .ok (.inserted d'') ∧
        d''.bindings ≠ blogListed.bindings := by
    decide +kernel
  refine ⟨⟨d', h, (addHost_keeps_bindings (by decide) htwo hfound hfresh h).1 rfl⟩, d'', h', ?_⟩
  rcases (addHost_keeps_bindings (by decide) hshared hfound hfresh h').2 rfl with
    hsame | ⟨earlier, later, hbefore, hafter, hlater⟩
  · exact absurd hsame hmore
  · rw [hafter, hbefore, hlater hlast, List.append_nil]
    rfl

end Document
end HostRouting
