import HostRouting.Proofs.Document.BlockReading

/-!
# The binding of an added host

The routers of a host leave the bindings as they are, as their rows are quiet and stand above a
shallow line. Where the service block is put the reader is in the section that receives it, as long
as no section of an outer `services:` reaches there, so the block puts in its own binding and
changes no other. So a host that is added with a shared service is listed with that service, and
once.
-/
namespace HostRouting
open Text BindingState

theorem filter_firstOfEachName (bs : List ServiceBinding) (n : Text) :
    (firstOfEachName bs).filter (·.name = n) = (bs.find? (·.name = n)).toList := by
  induction bs with
  | nil => rfl
  | cons b rest ih =>
      rw [firstOfEachName, List.find?_cons]
      by_cases hb : b.name = n
      · have hrest :
            ((firstOfEachName rest).filter (·.name ≠ b.name)).filter (·.name = n) = [] := by
          rw [List.filter_filter, List.filter_eq_nil_iff]
          intro c _ hc
          simp only [Bool.and_eq_true, decide_eq_true_eq] at hc
          exact hc.2 (hc.1.trans hb.symm)
        rw [List.filter_cons_of_pos (by simpa using hb), hrest]
        simp [hb]
      · have hrest : ((firstOfEachName rest).filter (·.name ≠ b.name)).filter (·.name = n) =
            (firstOfEachName rest).filter (·.name = n) := by
          rw [List.filter_filter]
          refine List.filter_congr fun c _ => ?_
          by_cases hc : c.name = n
          · simp [hc, Ne.symm hb]
          · simp [hc]
        rw [List.filter_cons_of_neg (by simpa using hb), hrest, ih]
        simp [hb]

theorem find?_eq_none_of_name {bs : List ServiceBinding} {n : Text} :
    bs.find? (·.name = n) = none ↔ ∀ b ∈ bs, b.name ≠ n := by
  simp only [List.find?_eq_none, decide_eq_true_eq, ne_eq]

theorem forall_name_ne_iff {bs : List ServiceBinding} {n : Text} :
    (∀ b ∈ firstOfEachName bs, b.name ≠ n) ↔ ∀ b ∈ bs, b.name ≠ n := by
  rw [← find?_eq_none_of_name, ← find?_eq_none_of_name, List.find?_eq_none,
    ← Option.toList_eq_nil_iff, ← filter_firstOfEachName, List.filter_eq_nil_iff]

namespace Document

variable {d d' : Document} {e : Entity} {policy : MatchPolicy} {plan : RoutingPlan}

/-- A block of quiet rows among the routers leaves what is read as it was. -/
theorem scan_insertBlock {block : Text} (h : d.insertBlock e block = .ok (.inserted d'))
    (hq : ∀ row ∈ indentBlock block 4, Quiet row) :
    outside.scan d'.lines = outside.scan d.lines := by
  obtain ⟨-, above, below, hd, hc, hd'⟩ := insertBlock_eq_inserted h
  rw [hd', List.append_assoc, scan_dropEndWhile_append, scan_append, scan_quiet _ hq hc.bottom_head,
    hd, scan_append]

/-- While the section of the first service header is open, a line leaves the reader in that section
or in an outer one. The header itself does not end an outer one that is open. -/
theorem header?_step_of_phase {state : BindingState} {phase : Phase} {line : Text}
    (hheader : SectionHeader.services.isOn line = true → trim line = "services:".toList)
    (hs : phase = .inside → ∃ h ≤ 2, state.header? = some h)
    (hphase : phase.step SectionHeader.services.isOn (isShallow 2) line = .inside) :
    ∃ h ≤ 2, (state.step line).1.header? = some h := by
  cases phase with
  | after => cases hphase
  | inside =>
      obtain ⟨h, hle, hh⟩ := hs rfl
      have hopen : isShallow 2 line = false := by
        cases hc : isShallow 2 line with
        | false => rfl
        | true => simp [Phase.step, hc] at hphase
      refine ⟨h, hle, header?_step hh ?_⟩
      rw [Bool.eq_false_iff]
      intro hshallow
      rw [isShallow_mono hle hshallow] at hopen
      cases hopen
  | before =>
      have hon : SectionHeader.services.isOn line = true := by
        cases ho : SectionHeader.services.isOn line with
        | true => rfl
        | false => simp [Phase.step, ho] at hphase
      have hindent : indentOf line = 2 := SectionHeader.indentOf_of_isOn hon
      by_cases hin : ∃ h, state.header? = some h ∧ isShallow h line = false
      · obtain ⟨h, hh, hl⟩ := hin
        refine ⟨h, ?_, header?_step hh hl⟩
        rcases isShallow_eq_false_iff.mp hl with hb | hlt
        · rw [SectionHeader.isBlank_of_isOn hon] at hb
          cases hb
        · omega
      · simp only [not_exists, not_and, Bool.not_eq_false] at hin
        have hopened : (state.step line).1.header? = some 2 := by
          rw [step_opening hin, header?_opening]
          exact ⟨hheader hon, hindent⟩
        exact ⟨2, le_rfl, hopened⟩

theorem header?_after_read {state : BindingState} {phase : Phase} {lines : List Text}
    (hheaders : ∀ l ∈ lines, SectionHeader.services.isOn l = true → trim l = "services:".toList)
    (hs : phase = .inside → ∃ h ≤ 2, state.header? = some h)
    (hread : Phase.read SectionHeader.services.isOn (isShallow 2) phase lines = .inside) :
    ∃ h ≤ 2, (state.after lines).header? = some h := by
  induction lines generalizing phase state with
  | nil => exact hs hread
  | cons line rest ih =>
      refine ih (fun l hl => hheaders l (List.mem_cons_of_mem _ hl)) ?_ hread
      exact header?_step_of_phase (hheaders line List.mem_cons_self) hs

/-- No outer section of services reaches the place where a service block goes. -/
def OpenToServices (d : Document) : Prop :=
  ∀ q, d.servicePoint? = some q → ¬ EndsInOuterServices (d.lines.take q)

/-- A service block is read as its one binding where its section is open or is opened above it. -/
theorem scan_serviceOpening {state : BindingState} {below : List Text} (he : '\n' ∉ e.host)
    (hb : '\n' ∉ plan.backend) (hwide : state.Wide)
    (hin : ∀ n, d.findHeader? .services 0 = some n → state.header? = some 2)
    (hbelow : ∀ l ∈ below.head?, isShallow 2 l = true) :
    state.scan (d.serviceOpening ++ plan.serviceRows policy e ++ below) =
      state.pending.toList ++ ((plan.binding? policy e).toList ++ outside.scan below) := by
  unfold serviceOpening
  cases hf : d.findHeader? .services 0 with
  | some n =>
      rw [List.nil_append]
      exact RoutingPlan.scan_serviceRows he hb (hin n hf) hbelow
  | none =>
      have hline : ∀ l ∈ (servicesLine :: (plan.serviceRows policy e ++ below)).head?,
          isShallow 2 l = true := by
        intro l hl
        obtain rfl : servicesLine = l := Option.some.inj hl
        decide
      rw [List.append_assoc, List.singleton_append, hwide.scan hline, scan_servicesLine,
        RoutingPlan.scan_serviceRows he hb rfl hbelow]
      exact congrArg _ (List.nil_append _)

/-- A service block puts its binding among those that are read, at one place. -/
theorem scan_insertServiceBlock (he : '\n' ∉ e.host) (hb : '\n' ∉ plan.backend)
    (hheaders : ∀ l ∈ d.lines, SectionHeader.services.isOn l = true → trim l = "services:".toList)
    (hopen : d.OpenToServices)
    (h : d.insertServiceBlock (plan.serviceBlock policy e) = .ok d') :
    ∃ front back, outside.scan d.lines = front ++ back ∧
      outside.scan d'.lines = front ++ ((plan.binding? policy e).toList ++ back) := by
  obtain ⟨above, below, hd, hc, hd'⟩ := insertServiceBlock_eq_ok h
  have hpoint : d.servicePoint? = some above.length :=
    servicePoint?_eq_some_iff.mpr ⟨above, below, hd, rfl, hc⟩
  have hends : ¬ EndsInOuterServices above := by
    have hnot := hopen _ hpoint
    rwa [hd, List.take_left] at hnot
  have hwide : (outside.after above).Wide := wide_after hends
  have hbelow := hc.bottom_head d.indent_serviceSection_le
  have hin : ∀ n, d.findHeader? .services 0 = some n →
      (outside.after above).header? = some 2 := by
    intro n hf
    have hsection : d.serviceSection = .services := by simp [serviceSection, hf]
    rw [hsection] at hc
    obtain ⟨h, hle, hh⟩ : ∃ h ≤ 2, (outside.after above).header? = some h :=
      header?_after_read (fun l hl => hheaders l (by rw [hd]; exact List.mem_append_left _ hl))
        (by simp) hc.inside
    obtain rfl : h = 2 := Nat.le_antisymm hle (hwide h hh)
    exact hh
  refine ⟨outside.emitted above ++ (outside.after above).pending.toList, outside.scan below, ?_, ?_⟩
  · rw [hd, scan_append, hwide.scan hbelow, List.append_assoc]
  · rw [hd', List.append_assoc (dropEndWhile isBlank above), scan_dropEndWhile_append, scan_append,
      List.append_assoc (outside.emitted above)]
    exact congrArg (outside.emitted above ++ ·) (scan_serviceOpening he hb hwide hin hbelow)

theorem filter_insertBlock {block : Text} (h : d.insertBlock e block = .ok (.inserted d')) :
    d'.lines.filter (isShallow 2) = d.lines.filter (isShallow 2) := by
  obtain ⟨-, above, below, hd, -, hd'⟩ := insertBlock_eq_inserted h
  have hrows : (indentBlock block 4).filter (isShallow 2) = [] := by
    rw [List.filter_eq_nil_iff]
    intro row hr
    simp [isShallow_of_mem_indentBlock (by decide : 2 < 4) hr]
  have habove : (dropEndWhile isBlank above).filter (isShallow 2) = above.filter (isShallow 2) := by
    rw [← filter_isShallow_visible, visible_dropEndWhile, filter_isShallow_visible]
  rw [hd', hd, List.filter_append, List.filter_append, List.filter_append, hrows, habove,
    List.append_nil]

theorem mem_lines_of_filter (hsame : d'.lines.filter (isShallow 2) = d.lines.filter (isShallow 2))
    {l : Text} (hl : isShallow 2 l = true) : l ∈ d'.lines ↔ l ∈ d.lines := by
  have hiff : l ∈ d'.lines.filter (isShallow 2) ↔ l ∈ d.lines.filter (isShallow 2) := by
    rw [hsame]
  simpa [List.mem_filter, hl] using hiff

/-- Lines that are not shallow do not decide where a service block goes among the others. -/
theorem exists_serviceCut_of_filter {above' below' : List Text}
    (hsame : d'.lines.filter (isShallow 2) = d.lines.filter (isShallow 2))
    (hd' : d'.lines = above' ++ below') (hc' : SectionCut d'.serviceSection above' below') :
    ∃ above below, d.lines = above ++ below ∧ SectionCut d.serviceSection above below ∧
      above'.filter (isShallow 2) = above.filter (isShallow 2) ∧
      below'.filter (isShallow 2) = below.filter (isShallow 2) := by
  have hon : ∀ {header : SectionHeader}, header.indent ≤ 2 →
      ((∃ l ∈ d'.lines, header.isOn l = true) ↔ ∃ l ∈ d.lines, header.isOn l = true) := by
    intro header hindent
    refine exists_congr fun l => and_congr_left fun ho => mem_lines_of_filter hsame ?_
    exact SectionHeader.isShallow_of_isOn hindent ho
  have hsection : d'.serviceSection = d.serviceSection := by
    refine (serviceSection_congr ?_).1
    have hservices : (∃ l ∈ d'.lines, SectionHeader.services.isOn l = true) ↔
        ∃ l ∈ d.lines, SectionHeader.services.isOn l = true := hon (by decide)
    simpa using not_congr hservices.symm
  rw [hsection] at hc'
  have hindent := d.indent_serviceSection_le
  obtain ⟨n, hn⟩ : ∃ n, d.findHeader? d.serviceSection 0 = some n := by
    obtain ⟨l, hl, ho⟩ := hc'.exists_opens
    refine exists_findHeader?_iff.mpr ((hon hindent).mp ⟨l, ?_, ho⟩)
    rw [hd']
    exact List.mem_append_left _ hl
  obtain ⟨above, below, hd, -, hc⟩ := cut_sectionEnd hn
  have hparts := Cut.unique (SectionCut.filter hindent hc') (SectionCut.filter hindent hc)
    (by rw [← List.filter_append, ← List.filter_append, ← hd', ← hd, hsame])
  exact ⟨above, below, hd, hc, hparts⟩

/-- Nor do they decide whether an outer section reaches the services. -/
theorem OpenToServices.of_filter (h : d.OpenToServices)
    (hsame : d'.lines.filter (isShallow 2) = d.lines.filter (isShallow 2)) :
    d'.OpenToServices := by
  intro q hq
  obtain ⟨above', below', hd', rfl, hc'⟩ := servicePoint?_eq_some_iff.mp hq
  obtain ⟨above, below, hd, hc, habove, -⟩ := exists_serviceCut_of_filter hsame hd' hc'
  have hpoint : d.servicePoint? = some above.length :=
    servicePoint?_eq_some_iff.mpr ⟨above, below, hd, rfl, hc⟩
  have hends := h _ hpoint
  rw [hd, List.take_left, ← endsInOuterServices_filter, ← habove,
    endsInOuterServices_filter] at hends
  rwa [hd', List.take_left]

/-- No binding of the name is read from the document with the routers of its host. -/
theorem name_notMem_scan_insertBlock (he : '\n' ∉ e.host) (hs : plan.separate = false)
    (hr : '\n' ∉ plan.certResolver)
    (htag : "- url:".toList <+: policy.tag e →
      ∀ l ∈ d.lines, trim l ≠ BlockKind.service.name (policy.tag e) ++ [':'])
    (hfresh : ∀ b ∈ outside.scan d.lines, b.name ≠ BlockKind.service.name (policy.tag e))
    (h : d.insertBlock e (plan.routerBlock policy e) = .ok (.inserted d')) :
    ∀ b ∈ outside.scan d'.lines, b.name ≠ BlockKind.service.name (policy.tag e) := by
  have hn : ∀ l ∈ plan.routerLines policy e, '\n' ∉ l :=
    fun l hl => RoutingPlan.newline_not_mem_routerLines_shared he hs hr hl
  by_cases hserver : "- url:".toList <+: policy.tag e
  · intro b hb hname
    rcases exists_line_of_mem_scan hb with ⟨i, t, hbody⟩ | ⟨l, hl, htrim⟩
    · cases hbody
    · rw [hname] at htrim
      obtain ⟨-, above, below, hd, -, hd'⟩ := insertBlock_eq_inserted h
      have hoff := htag hserver
      rw [hd, List.forall_mem_append] at hoff
      rw [hd'] at hl
      rcases List.mem_append.mp hl with hl | hl
      · rcases List.mem_append.mp hl with hl | hl
        · exact hoff.1 l (mem_of_mem_dropEndWhile _ hl) htrim
        · rcases exists_of_mem_indentBlock hn hl with rfl | ⟨line, hline, rfl⟩
          · exact List.append_ne_nil_of_right_ne_nil _ (List.cons_ne_nil _ _) htrim.symm
          · rw [trim_row] at htrim
            exact RoutingPlan.not_serviceName_routerLines hs hserver hline htrim
      · exact hoff.2 l hl htrim
  · have hquiet := quiet_indentBlock hn fun l hl => RoutingPlan.silent_routerLines hs hserver hl
    rwa [scan_insertBlock h hquiet]

/-- Whoever is added with a shared service is listed once with it, if the tag can be listed. -/
theorem addHost_lists (he : '\n' ∉ e.host) (hs : plan.separate = false)
    (hb : '\n' ∉ plan.backend) (hr : '\n' ∉ plan.certResolver)
    (hheaders : ∀ l ∈ d.lines, SectionHeader.services.isOn l = true → trim l = "services:".toList)
    (hopen : d.OpenToServices)
    (htag : "- url:".toList <+: policy.tag e →
      ∀ l ∈ d.lines, trim l ≠ BlockKind.service.name (policy.tag e) ++ [':'])
    (hfresh : ∀ b ∈ d.bindings, b.name ≠ BlockKind.service.name (policy.tag e))
    (h : d.addHost policy e plan = .ok (.inserted d')) :
    d'.bindings.filter (·.name = BlockKind.service.name (policy.tag e)) =
      if reservedKeys.any (occursIn · (policy.tag e)) then []
      else [⟨BlockKind.service.name (policy.tag e), plan.serverUrl⟩] := by
  obtain ⟨routed, hrouted, ⟨hseparate, -⟩ | ⟨-, hserved⟩⟩ := addHost_eq_inserted h
  · rw [hs] at hseparate
    cases hseparate
  · have hsame := filter_insertBlock hrouted
    have hnames := name_notMem_scan_insertBlock he hs hr htag (forall_name_ne_iff.mp hfresh) hrouted
    have hheaders' : ∀ l ∈ routed.lines, SectionHeader.services.isOn l = true →
        trim l = "services:".toList := by
      intro l hl ho
      have hshallow : isShallow 2 l = true := SectionHeader.isShallow_of_isOn (by decide) ho
      exact hheaders l ((mem_lines_of_filter hsame hshallow).mp hl) ho
    obtain ⟨front, back, hscan, hscan'⟩ :=
      scan_insertServiceBlock he hb hheaders' (hopen.of_filter hsame) hserved
    rw [hscan, List.forall_mem_append] at hnames
    rw [bindings, filter_firstOfEachName, hscan', List.find?_append, List.find?_append,
      find?_eq_none_of_name.mpr hnames.1, find?_eq_none_of_name.mpr hnames.2, Option.none_or,
      Option.or_none, RoutingPlan.binding?]
    split_ifs
    · rfl
    · simp

/-- Whether an edit is made and gives such a document can be computed. -/
instance decidableInserted (P : Document → Prop) [DecidablePred P] :
    (r : Except EditError Insertion) → Decidable (∃ d', r = .ok (.inserted d') ∧ P d')
  | .ok (.inserted d) => decidable_of_iff (P d) (by simp)
  | .ok .alreadyExists => isFalse (by simp)
  | .error _ => isFalse (by simp)

/-- One service behind the only pair of routers. -/
def sharedPlan : RoutingPlan :=
  { backend := "api".toList, frontend := "api".toList, separate := false }

/-- A document that lists another host. -/
def blogListed : Document :=
  ⟨["http:", "  routers:", "  services:", "    blog-service:", "      loadBalancer:",
    "        servers:", "        - url: http://web"].map String.toList⟩

theorem addHost_lists_sample : ∃ d',
    blogListed.addHost .firstLabel shopHost sharedPlan = .ok (.inserted d') ∧
      d'.bindings.filter (·.name = "shop-service".toList) =
        [⟨"shop-service".toList, "http://api:8080".toList⟩] := by
  have hopen : blogListed.OpenToServices := by
    intro q hq
    obtain rfl : 7 = q := Option.some.inj hq
    decide
  have hnotag : ¬ "- url:".toList <+: MatchPolicy.firstLabel.tag shopHost := by decide
  have hfresh : ∀ b ∈ blogListed.bindings, b.name ≠ "shop-service".toList := by decide
  obtain ⟨d', h, -⟩ : ∃ d',
      blogListed.addHost .firstLabel shopHost sharedPlan = .ok (.inserted d') ∧ True := by
    decide +kernel
  have hlisted := addHost_lists (by decide) rfl (by decide) (by decide) (by decide) hopen
    (fun htag => absurd htag hnotag) hfresh h
  exact ⟨d', h, hlisted⟩

/-- The host is added with a shared service to a document that has no binding of its name, and it is
not listed afterwards, or not with that service. -/
structure Unlisted (policy : MatchPolicy) (e : Entity) (plan : RoutingPlan) (d : Document) :
    Prop where
  host : '\n' ∉ e.host
  shared : plan.separate = false
  backend : '\n' ∉ plan.backend
  headers : ∀ l ∈ d.lines, SectionHeader.services.isOn l = true → trim l = "services:".toList
  fresh : ∀ b ∈ d.bindings, b.name ≠ BlockKind.service.name (policy.tag e)
  unlisted : ∃ d', d.addHost policy e plan = .ok (.inserted d') ∧
    d'.bindings.filter (·.name = BlockKind.service.name (policy.tag e)) ≠
      [⟨BlockKind.service.name (policy.tag e), plan.serverUrl⟩]

/-- A host whose first label is a key of service bodies. -/
def serversHost : Entity := ⟨"servers.example".toList, by decide, by decide⟩

/-- A host whose first label reads as the line of a server. -/
def serverLineHost : Entity := ⟨"- url:shop".toList, by decide, by decide⟩

/-- The section that receives services stands inside an outer one. -/
def nestedServices : Document :=
  ⟨["services:", "  routers:", "  services:"].map String.toList⟩

/-- The section of services has to be opened anew, inside an outer one. -/
def narrowServices : Document := ⟨["http:", "  routers:", " services:"].map String.toList⟩

/-- A resolver that goes on with a section of services of its own. -/
def sectionResolver : Text := "x\nservices:\n  shop-service:\n    - url: http://web".toList

/-- A member without a server stands above the routers of its name. -/
def openMember : Document :=
  ⟨["http:", "  routers:", "   services:", "     - url:shop-service:",
    "  services:"].map String.toList⟩

/-- What keeps a host from being listed: a key of service bodies in its tag, an outer section of
services around the place of its block, line feeds in the resolver, and a tag that reads as a server
where its own name stands open. -/
theorem addHost_unlisted :
    Unlisted .firstLabel serversHost sharedPlan bareSections ∧
    Unlisted .firstLabel shopHost sharedPlan nestedServices ∧
    Unlisted .firstLabel shopHost sharedPlan narrowServices ∧
    Unlisted .firstLabel shopHost { sharedPlan with certResolver := sectionResolver }
      bareSections ∧
    Unlisted .firstLabel serverLineHost sharedPlan openMember := by
  refine ⟨?_, ?_, ?_, ?_, ?_⟩
  · exact ⟨by decide, rfl, by decide, by decide, by decide, by decide +kernel⟩
  · exact ⟨by decide, rfl, by decide, by decide, by decide, by decide +kernel⟩
  · exact ⟨by decide, rfl, by decide, by decide, by decide, by decide +kernel⟩
  · exact ⟨by decide, rfl, by decide, by decide, by decide, by decide +kernel⟩
  · exact ⟨by decide, rfl, by decide, by decide, by decide, by decide +kernel⟩

end Document
end HostRouting
