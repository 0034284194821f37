import HostRouting.Proofs.Document.Rendering
import HostRouting.Proofs.Text.Words

/-!
# The shapes of generated lines

A generated line is a header comment, the tag with one of a few endings, the rule, the name of
the shared service, a text of the plan behind a fixed lead, or one of a few fixed
lines. All but the comments and the names begin with a fixed first word.
-/
namespace HostRouting
open Text

variable {policy : MatchPolicy} {f : Entity} {plan : RoutingPlan} {l : Text}

theorem BlockKind.firstWord_comment (kind : BlockKind) (e : Entity) :
    firstWord (kind.comment e) = ['#'] := by
  cases kind <;> rfl

/-- What stands behind the tag on the lines that name routers and services. -/
def nameEndings (separate : Bool) : List Text :=
  if separate then
    ["-backend-router:".toList, "-backend-router-websecure:".toList, "-frontend-router:".toList,
      "-frontend-router-websecure:".toList]
  else ["-router:".toList, "-router-websecure:".toList, "-service:".toList]

/-- What stands behind the marker in a rule. -/
def ruleEndings : List Text :=
  [[], " && PathPrefix(`/api`)".toList, " && !PathPrefix(`/api`)".toList]

/-- What stands in front of a text of a plan. -/
def textLeads : List Text :=
  ["  service: ".toList, "    certResolver: ".toList, "    - ".toList,
    "    - url: http://".toList]

/-- The generated lines that are the same for every host and plan. -/
def fixedLines : List Text :=
  ["  middlewares:".toList, "  middlewares: []".toList, "  entryPoints:".toList,
    "    - web".toList, "    - websecure".toList, "  tls:".toList, "  loadBalancer:".toList,
    "    servers:".toList, "    passHostHeader: true".toList, []]

/-- The first words of generated lines that are neither comments nor names. -/
def fieldWords : List Text :=
  ["rule:".toList, "service:".toList, "certResolver:".toList, "-".toList, "middlewares:".toList,
    "entryPoints:".toList, "tls:".toList, "loadBalancer:".toList, "servers:".toList,
    "passHostHeader:".toList, []]

/-- The texts of a plan that are written into the document. -/
def RoutingPlan.texts (plan : RoutingPlan) : List Text :=
  if plan.separate then
    [plan.backend, plan.frontend, plan.certResolver] ++
      if plan.skipMiddlewares then [] else [plan.redirectMiddleware]
  else [plan.backend, plan.certResolver]

/-- The line has one of the shapes of a line generated for the host by the plan. -/
inductive GeneratedLine (plan : RoutingPlan) (policy : MatchPolicy) (f : Entity) : Text → Prop
  | comment (kind : BlockKind) : GeneratedLine plan policy f (kind.comment f)
  | name {t : Text} (h : t ∈ nameEndings plan.separate) :
      GeneratedLine plan policy f (policy.tag f ++ t)
  | rule {t : Text} (h : t ∈ ruleEndings) :
      GeneratedLine plan policy f ("  rule: ".toList ++ (f.marker ++ t))
  | service : GeneratedLine plan policy f
      ("  service: ".toList ++ BlockKind.service.name (policy.tag f))
  | text {lead t trail : Text} (hlead : lead ∈ textLeads) (ht : t ∈ plan.texts)
      (htrail : ')' ∉ trail) : GeneratedLine plan policy f (lead ++ (t ++ trail))
  | fixed {t : Text} (h : t ∈ fixedLines) : GeneratedLine plan policy f t

namespace GeneratedLine

theorem text_end {lead t : Text} (hlead : lead ∈ textLeads) (ht : t ∈ plan.texts) :
    GeneratedLine plan policy f (lead ++ t) := by
  have h : GeneratedLine plan policy f (lead ++ (t ++ [])) := text hlead ht List.not_mem_nil
  rwa [List.append_nil] at h

theorem of_mem_fixed_attachment {a : Attachment}
    (ha : a ∈ [webEntryPoint, secureEntryPoint, .noMiddlewares]) (hl : l ∈ a.lines) :
    GeneratedLine plan policy f l := by
  have hfixed : ∀ a ∈ [webEntryPoint, secureEntryPoint, .noMiddlewares],
      ∀ l ∈ a.lines, l ∈ fixedLines := by decide
  exact fixed (hfixed a ha l hl)

theorem of_mem_attachments (hs : plan.separate = true) :
    (∀ l ∈ plan.attachments.1.lines, GeneratedLine plan policy f l) ∧
      ∀ l ∈ plan.attachments.2.lines, GeneratedLine plan policy f l := by
  have hentry : ∀ a ∈ [webEntryPoint, secureEntryPoint, .noMiddlewares],
      ∀ l ∈ a.lines, GeneratedLine plan policy f l := fun a ha l hl => of_mem_fixed_attachment ha hl
  cases hm : plan.skipMiddlewares with
  | true =>
      have ha : plan.attachments = (webEntryPoint, secureEntryPoint) := by
        simp [RoutingPlan.attachments, hm]
      rw [ha]
      exact ⟨hentry _ (by simp), hentry _ (by simp)⟩
  | false =>
      have ha : plan.attachments = (.middleware plan.redirectMiddleware, .noMiddlewares) := by
        simp [RoutingPlan.attachments, hm]
      have hmem : plan.redirectMiddleware ∈ plan.texts := by simp [RoutingPlan.texts, hs, hm]
      rw [ha]
      refine ⟨fun l hl => ?_, hentry _ (by simp)⟩
      rcases List.mem_pair.mp hl with rfl | rfl
      · exact fixed (by decide)
      · exact text_end (by decide) hmem

/-- A router whose parts have their shapes. -/
theorem of_mem_router {r : Router}
    (hname : ∃ t ∈ nameEndings plan.separate, r.name ++ [':'] = policy.tag f ++ t)
    (hrule : ∃ t ∈ ruleEndings, r.rule = f.marker ++ t)
    (hservice : GeneratedLine plan policy f ("  service: ".toList ++ r.service))
    (hattached : ∀ l ∈ r.attachment.lines, GeneratedLine plan policy f l)
    (htls : ∀ resolver ∈ r.certResolver, resolver ∈ plan.texts) (h : l ∈ r.lines) :
    GeneratedLine plan policy f l := by
  rcases Router.mem_lines.mp h with rfl | rfl | rfl | h | h | rfl
  · obtain ⟨t, ht, he⟩ := hname
    rw [he]
    exact name ht
  · obtain ⟨t, ht, he⟩ := hrule
    rw [he]
    exact rule ht
  · exact hservice
  · exact hattached l h
  · cases hr : r.certResolver with
    | none => simp [hr, Router.tlsLines] at h
    | some resolver =>
        rw [hr] at h
        rcases List.mem_pair.mp h with rfl | rfl
        · exact fixed (by decide)
        · exact text_end (by decide) (htls resolver hr)
  · exact fixed (by decide)

theorem of_mem_group {g : RouterGroup}
    (hname : ∀ more ∈ [[], "-websecure".toList],
      g.kind.ending ++ more ++ [':'] ∈ nameEndings plan.separate)
    (hrule : ∃ t ∈ ruleEndings, g.rule = f.marker ++ t)
    (hservice : GeneratedLine plan policy f ("  service: ".toList ++ g.service))
    (hplain : ∀ l ∈ g.plain.lines, GeneratedLine plan policy f l)
    (hsecure : ∀ l ∈ g.secure.lines, GeneratedLine plan policy f l)
    (hresolver : plan.certResolver ∈ plan.texts) (h : l ∈ g.lines policy f plan.certResolver) :
    GeneratedLine plan policy f l := by
  rcases RouterGroup.mem_lines.mp h with rfl | ⟨r, hr, hl⟩
  · exact comment g.kind
  · have hname' : ∃ t ∈ nameEndings plan.separate, r.name ++ [':'] = policy.tag f ++ t := by
      obtain ⟨more, hmore, he⟩ := RouterGroup.exists_name_eq hr
      refine ⟨_, hname more hmore, ?_⟩
      rw [he, BlockKind.name]
      simp only [List.append_assoc]
    rcases List.mem_pair.mp hr with rfl | rfl
    · exact of_mem_router hname' hrule hservice hplain (by simp) hl
    · exact of_mem_router hname' hrule hservice hsecure (by simpa using hresolver) hl

theorem of_mem_routerLines (h : l ∈ plan.routerLines policy f) :
    GeneratedLine plan policy f l := by
  rw [RoutingPlan.routerLines_eq_flatMap] at h
  obtain ⟨g, hg, hl⟩ := List.mem_flatMap.mp h
  unfold RoutingPlan.groups at hg
  have hresolver : plan.certResolver ∈ plan.texts := by
    unfold RoutingPlan.texts
    split <;> simp
  cases hs : plan.separate with
  | true =>
      have hplain : ∀ l ∈ plan.attachments.1.lines, GeneratedLine plan policy f l :=
        (of_mem_attachments hs).1
      have hsecure : ∀ l ∈ plan.attachments.2.lines, GeneratedLine plan policy f l :=
        (of_mem_attachments hs).2
      have hbackend : plan.backend ∈ plan.texts := by simp [RoutingPlan.texts, hs]
      have hfrontend : plan.frontend ∈ plan.texts := by simp [RoutingPlan.texts, hs]
      rw [if_pos hs] at hg
      have hnames : ∀ kind ∈ [BlockKind.backendRouter, .frontendRouter],
          ∀ more ∈ [[], "-websecure".toList], kind.ending ++ more ++ [':'] ∈ nameEndings true := by
        decide
      rcases List.mem_pair.mp hg with rfl | rfl
      · exact of_mem_group (by rw [hs]; exact hnames _ (by simp)) ⟨_, by decide, rfl⟩
          (text_end (by decide) hbackend) hplain hsecure hresolver hl
      · exact of_mem_group (by rw [hs]; exact hnames _ (by simp)) ⟨_, by decide, rfl⟩
          (text_end (by decide) hfrontend) hplain hsecure hresolver hl
  | false =>
      rw [if_neg (by simp [hs])] at hg
      rw [List.mem_singleton.mp hg] at hl
      have hnames : ∀ more ∈ [[], "-websecure".toList],
          BlockKind.router.ending ++ more ++ [':'] ∈ nameEndings false := by
        decide
      exact of_mem_group (by rw [hs]; exact hnames) ⟨[], by decide, (List.append_nil _).symm⟩
        service (fun l hl => of_mem_fixed_attachment (by simp) hl)
        (fun l hl => of_mem_fixed_attachment (by simp) hl) hresolver hl

theorem of_mem_serviceLines (hs : plan.separate = false) (h : l ∈ plan.serviceLines policy f) :
    GeneratedLine plan policy f l := by
  have hbackend : plan.backend ∈ plan.texts := by simp [RoutingPlan.texts, hs]
  have hport : ')' ∉ [':'] ++ Text.ofNat plan.port.toNat := by
    rw [List.mem_append, not_or]
    exact ⟨by decide, RoutingPlan.not_mem_ofNat (by decide) _⟩
  rcases RoutingPlan.mem_serviceLines.mp h with rfl | rfl | rfl | rfl | rfl | rfl | rfl
  · exact comment .service
  · rw [BlockKind.name, List.append_assoc]
    exact name (by rw [hs]; decide)
  · exact fixed (by decide)
  · exact fixed (by decide)
  · rw [List.append_assoc, List.append_assoc]
    exact text (by decide) hbackend hport
  · exact fixed (by decide)
  · exact fixed (by decide)

/-- Every line generated for a host has one of the shapes. -/
theorem of_mem (h : l ∈ plan.generatedLines policy f) : GeneratedLine plan policy f l := by
  rcases List.mem_append.mp h with h | h
  · exact of_mem_routerLines h
  · split_ifs at h with hs
    · cases h
    · exact of_mem_serviceLines (by simpa using hs) h

theorem firstWord_of_lead {lead : Text} (h : lead ∈ textLeads) (t : Text) :
    firstWord (lead ++ t) ∈ fieldWords := by
  have hword : firstWord (lead ++ t) ∈ ["service:".toList, "certResolver:".toList, "-".toList] := by
    simp only [textLeads, List.mem_cons, List.not_mem_nil, or_false] at h ⊢
    rcases h with rfl | rfl | rfl | rfl
    · exact .inl rfl
    · exact .inr (.inl rfl)
    · exact .inr (.inr rfl)
    · exact .inr (.inr rfl)
  revert hword
  generalize firstWord (lead ++ t) = w
  revert w
  decide

theorem firstWord_rule (t : Text) : firstWord ("  rule: ".toList ++ t) ∈ fieldWords := by
  have hword : firstWord ("  rule: ".toList ++ t) = "rule:".toList := rfl
  rw [hword]
  decide

/-- Only comments and names do not begin with a field word. -/
theorem firstWord_mem (h : GeneratedLine plan policy f l) :
    (∃ kind : BlockKind, l = kind.comment f) ∨
      (∃ t ∈ nameEndings plan.separate, l = policy.tag f ++ t) ∨ firstWord l ∈ fieldWords := by
  cases h with
  | comment kind => exact .inl ⟨kind, rfl⟩
  | name ht => exact .inr (.inl ⟨_, ht, rfl⟩)
  | rule _ => exact .inr (.inr (firstWord_rule _))
  | service => exact .inr (.inr (firstWord_of_lead (by decide) _))
  | text hlead _ _ => exact .inr (.inr (firstWord_of_lead hlead _))
  | fixed ht =>
      refine .inr (.inr ?_)
      revert l
      decide

end GeneratedLine

namespace RoutingPlan

theorem mem_generatedLines_of_router {g : RouterGroup} {r : Router} (hg : g ∈ plan.groups policy f)
    (hr : r ∈ g.routers (policy.tag f) plan.certResolver) (hl : l ∈ r.lines) :
    l ∈ plan.generatedLines policy f := by
  apply List.mem_append_left
  rw [routerLines_eq_flatMap]
  exact List.mem_flatMap.mpr ⟨g, hg, RouterGroup.mem_lines.mpr (.inr ⟨r, hr, hl⟩)⟩

theorem name_mem_of_group {g : RouterGroup} (hg : g ∈ plan.groups policy f) {more : Text}
    (hmore : more ∈ [[], "-websecure".toList]) :
    policy.tag f ++ (g.kind.ending ++ more ++ [':']) ∈ plan.generatedLines policy f := by
  have hname : policy.tag f ++ (g.kind.ending ++ more ++ [':']) =
      g.kind.name (policy.tag f) ++ more ++ [':'] := by
    simp only [BlockKind.name, List.append_assoc]
  rw [hname]
  rcases List.mem_pair.mp hmore with rfl | rfl
  · rw [List.append_nil]
    exact mem_generatedLines_of_router hg List.mem_cons_self (Router.mem_lines.mpr (.inl rfl))
  · exact mem_generatedLines_of_router hg (List.mem_cons_of_mem _ List.mem_cons_self)
      (Router.mem_lines.mpr (.inl rfl))

/-- All names are generated. -/
theorem name_mem_generatedLines {t : Text} (h : t ∈ nameEndings plan.separate) :
    policy.tag f ++ t ∈ plan.generatedLines policy f := by
  have hnil : [] ∈ [[], "-websecure".toList] := List.mem_cons_self
  have hsecure : "-websecure".toList ∈ [[], "-websecure".toList] := by decide
  cases hs : plan.separate with
  | true =>
      have hgroups : plan.groups policy f = [_, _] := if_pos hs
      rw [hs, nameEndings, if_pos rfl] at h
      simp only [List.mem_cons, List.not_mem_nil, or_false] at h
      rcases h with rfl | rfl | rfl | rfl
      · exact name_mem_of_group (by rw [hgroups]; exact List.mem_cons_self) hnil
      · exact name_mem_of_group (by rw [hgroups]; exact List.mem_cons_self) hsecure
      · exact name_mem_of_group
          (by rw [hgroups]; exact List.mem_cons_of_mem _ List.mem_cons_self) hnil
      · exact name_mem_of_group
          (by rw [hgroups]; exact List.mem_cons_of_mem _ List.mem_cons_self) hsecure
  | false =>
      have hgroups : plan.groups policy f = [_] := if_neg (by simp [hs])
      rw [hs, nameEndings, if_neg (by simp)] at h
      simp only [List.mem_cons, List.not_mem_nil, or_false] at h
      rcases h with rfl | rfl | rfl
      · exact name_mem_of_group (by rw [hgroups]; exact List.mem_cons_self) hnil
      · exact name_mem_of_group (by rw [hgroups]; exact List.mem_cons_self) hsecure
      · apply List.mem_append_right
        rw [if_neg (by simp [hs])]
        refine mem_serviceLines.mpr (.inr (.inl ?_))
        rw [BlockKind.name, List.append_assoc]
        rfl

theorem service_mem_of_group {g : RouterGroup} (hg : g ∈ plan.groups policy f) :
    "  service: ".toList ++ g.service ∈ plan.generatedLines policy f :=
  mem_generatedLines_of_router hg List.mem_cons_self (Router.mem_lines.mpr (.inr (.inr (.inl rfl))))

theorem resolver_mem_of_group {g : RouterGroup} (hg : g ∈ plan.groups policy f) :
    "    certResolver: ".toList ++ plan.certResolver ∈ plan.generatedLines policy f := by
  refine mem_generatedLines_of_router hg (List.mem_cons_of_mem _ List.mem_cons_self)
    (Router.mem_lines.mpr ?_)
  exact .inr (.inr (.inr (.inr (.inl (List.mem_cons_of_mem _ List.mem_cons_self)))))

theorem attachment_mem_of_group {g : RouterGroup} (hg : g ∈ plan.groups policy f)
    (hl : l ∈ g.plain.lines) : l ∈ plan.generatedLines policy f :=
  mem_generatedLines_of_router hg List.mem_cons_self
    (Router.mem_lines.mpr (.inr (.inr (.inr (.inl hl)))))

/-- All texts of a plan are written. -/
theorem exists_mem_generatedLines_of_text {t : Text} (h : t ∈ plan.texts) :
    ∃ l ∈ plan.generatedLines policy f, t <:+: l := by
  have behind : ∀ {lead u : Text}, lead ++ u ∈ plan.generatedLines policy f →
      ∃ l ∈ plan.generatedLines policy f, u <:+: l :=
    fun hl => ⟨_, hl, (List.suffix_append _ _).isInfix⟩
  unfold texts at h
  cases hs : plan.separate with
  | true =>
      have hgroups : plan.groups policy f = [_, _] := if_pos hs
      rw [hs, if_pos rfl, List.mem_append] at h
      simp only [List.mem_cons, List.not_mem_nil, or_false] at h
      rcases h with (rfl | rfl | rfl) | h
      · exact behind (service_mem_of_group (by rw [hgroups]; exact List.mem_cons_self))
      · exact behind (service_mem_of_group
          (by rw [hgroups]; exact List.mem_cons_of_mem _ List.mem_cons_self))
      · exact behind (resolver_mem_of_group (by rw [hgroups]; exact List.mem_cons_self))
      · split_ifs at h with hm
        · cases h
        · rw [List.mem_singleton.mp h]
          have ha : plan.attachments.1 = .middleware plan.redirectMiddleware := by
            simp [attachments, hm]
          have hline : "    - ".toList ++ plan.redirectMiddleware ∈ plan.attachments.1.lines := by
            rw [ha]
            exact List.mem_cons_of_mem _ List.mem_cons_self
          exact behind (attachment_mem_of_group (by rw [hgroups]; exact List.mem_cons_self) hline)
  | false =>
      have hgroups : plan.groups policy f = [_] := if_neg (by simp [hs])
      rw [hs, if_neg (by simp)] at h
      rcases List.mem_pair.mp h with rfl | rfl
      · have hline : "    - url: http://".toList ++ plan.backend ++ [':'] ++
            Text.ofNat plan.port.toNat ∈ plan.generatedLines policy f := by
          apply List.mem_append_right
          rw [if_neg (by simp [hs])]
          exact mem_serviceLines.mpr (.inr (.inr (.inr (.inr (.inl rfl)))))
        refine ⟨_, hline, ?_⟩
        rw [List.append_assoc]
        exact List.infix_append _ _ _
      · exact behind (resolver_mem_of_group (by rw [hgroups]; exact List.mem_cons_self))

end RoutingPlan
end HostRouting
