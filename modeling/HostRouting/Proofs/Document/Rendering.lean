import HostRouting.Document.Block
import HostRouting.Proofs.Document.Ownership
import HostRouting.Proofs.Text.Pieces

/-!
# The rows of generated blocks

A row is a generated line as it stands under its section. The first row of a block opens
a block of the host, and every further row opens one, is blank or is indented deeper
than the members of any section. So a scan that drops a block drops all of its rows,
and no row can be taken for a section header.
-/
namespace HostRouting
open Text

variable {policy : MatchPolicy} {e : Entity} {plan : RoutingPlan} {line : Text}

/-- No text of the plan holds a line feed. -/
structure RoutingPlan.OneLine (plan : RoutingPlan) : Prop where
  backend : '\n' ∉ plan.backend
  frontend : '\n' ∉ plan.frontend
  certResolver : '\n' ∉ plan.certResolver
  redirectMiddleware : '\n' ∉ plan.redirectMiddleware

namespace Entity

theorem head?_host (e : Entity) : ∀ c ∈ e.host.head?, isSpace c = false :=
  head?_of_trim e.trim_host

theorem getLast?_host (e : Entity) : ∀ c ∈ e.host.getLast?, isSpace c = false := by
  rw [← dropEndWhile_eq_self_iff]
  change trimEnd e.host = e.host
  rw [← e.trim_host, trim, trimEnd_trimEnd]

theorem newline_not_mem_marker (h : '\n' ∉ e.host) : '\n' ∉ e.marker := by
  intro hm
  rcases List.mem_append.mp hm with hm | hm
  · rcases List.mem_append.mp hm with hm | hm
    · revert hm
      decide
    · exact h hm
  · revert hm
    decide

end Entity

namespace MatchPolicy

theorem head?_tag (policy : MatchPolicy) (e : Entity) :
    ∀ c ∈ (policy.tag e).head?, isSpace c = false := by
  obtain ⟨c, rest, hc⟩ := List.exists_cons_of_ne_nil e.host_ne_nil
  have hs : isSpace c = false := e.head?_host c (by simp [hc])
  intro x hx
  cases policy with
  | firstLabel =>
      rw [tag, Entity.firstLabel, hc, List.takeWhile_cons] at hx
      split_ifs at hx with h
      · simpa [← show c = x by simpa using hx] using hs
      · simp at hx
  | fullHost =>
      rw [tag, hc, replaceChar, List.map_cons, List.head?_cons, Option.mem_def,
        Option.some.injEq] at hx
      split_ifs at hx with h
      · rw [← hx]
        decide
      · rw [← hx]
        exact hs

theorem newline_not_mem_tag (policy : MatchPolicy) (h : '\n' ∉ e.host) :
    '\n' ∉ policy.tag e := by
  intro hm
  cases policy with
  | firstLabel => exact h ((List.takeWhile_prefix _).subset hm)
  | fullHost =>
      obtain ⟨x, hx, he⟩ := List.mem_map.mp hm
      split_ifs at he with hd
      · exact absurd he (by decide)
      · exact h (he ▸ hx)

end MatchPolicy

namespace BlockKind

theorem comment_eq_cons (kind : BlockKind) (e : Entity) :
    ∃ start, kind.comment e = '#' :: start ++ e.host := by
  cases kind <;> exact ⟨_, rfl⟩

theorem trim_comment (kind : BlockKind) (e : Entity) : trim (kind.comment e) = kind.comment e := by
  obtain ⟨start, hs⟩ := kind.comment_eq_cons e
  apply trim_eq_self
  · rw [hs]
    intro c hc
    rw [← show '#' = c by simpa using hc]
    decide
  · rw [hs, List.getLast?_append_of_ne_nil _ e.host_ne_nil]
    exact e.getLast?_host

/-- A name with a colon behind it is its own trimming, whatever the name goes on with. -/
theorem trim_name_append (kind : BlockKind) (policy : MatchPolicy) (e : Entity) (more : Text) :
    trim (kind.name (policy.tag e) ++ more ++ [':']) =
      kind.name (policy.tag e) ++ more ++ [':'] := by
  apply trim_eq_self
  · intro c hc
    cases ht : policy.tag e with
    | nil =>
        have hd : kind.ending.head? = some '-' := by cases kind <;> rfl
        obtain ⟨x, r, hr⟩ := List.exists_cons_of_ne_nil kind.ending_ne_nil
        rw [hr, List.head?_cons, Option.some.injEq] at hd
        rw [name, ht, List.nil_append, hr, hd] at hc
        rw [← show '-' = c by simpa using hc]
        decide
    | cons x r =>
        rw [name, ht] at hc
        exact policy.head?_tag e c (by rw [ht]; simpa using hc)
  · intro c hc
    rw [List.getLast?_append_of_ne_nil _ (by simp)] at hc
    rw [← show ':' = c by simpa using hc]
    decide

theorem startsBlock_name (kind : BlockKind) (more : Text) :
    policy.startsBlock e (kind.name (policy.tag e) ++ more ++ [':']) = true := by
  apply startsBlock_of_name kind
  rw [trim_name_append, List.append_assoc]
  exact List.prefix_append _ _

theorem startsBlock_comment (kind : BlockKind) : policy.startsBlock e (kind.comment e) = true :=
  startsBlock_of_comment kind (kind.trim_comment e)

theorem newline_not_mem_comment (kind : BlockKind) (h : '\n' ∉ e.host) :
    '\n' ∉ kind.comment e := by
  intro hm
  rcases List.mem_append.mp hm with hm | hm
  · revert hm
    cases kind <;> decide
  · exact h hm

theorem newline_not_mem_name (kind : BlockKind) (h : '\n' ∉ e.host) :
    '\n' ∉ kind.name (policy.tag e) := by
  intro hm
  rcases List.mem_append.mp hm with hm | hm
  · exact policy.newline_not_mem_tag h hm
  · revert hm
    cases kind <;> decide

end BlockKind

/-- Dropped with a block of the host once the block is open: the line opens a block itself,
is blank, or is indented within the block. -/
def OwnedLine (policy : MatchPolicy) (e : Entity) (line : Text) : Prop :=
  policy.startsBlock e line = true ∨ isBlank line = true ∨ 0 < indentOf line

theorem ownedLine_of_head (h : line.head? = some ' ') : OwnedLine policy e line := by
  obtain ⟨r, rfl⟩ : ∃ r, line = ' ' :: r := List.head?_eq_some_iff.mp h
  exact .inr (.inr (by simp [indentOf]))

namespace Router

theorem mem_lines {r : Router} : line ∈ r.lines ↔ line = r.name ++ [':'] ∨
    line = "  rule: ".toList ++ r.rule ∨ line = "  service: ".toList ++ r.service ∨
    line ∈ r.attachment.lines ∨ line ∈ tlsLines r.certResolver ∨ line = [] := by
  simp only [lines, List.mem_append, List.mem_cons, List.not_mem_nil, or_false, or_assoc]

theorem head?_of_mem_attachment {a : Attachment} (h : line ∈ a.lines) :
    line.head? = some ' ' := by
  cases a with
  | middleware name =>
      rcases List.mem_pair.mp h with rfl | rfl <;> rfl
  | noMiddlewares =>
      rw [List.mem_singleton.mp h]
      rfl
  | entryPoint name =>
      rcases List.mem_pair.mp h with rfl | rfl <;> rfl

theorem head?_of_mem_tlsLines {resolver : Option Text} (h : line ∈ tlsLines resolver) :
    line.head? = some ' ' := by
  cases resolver with
  | none => simp [tlsLines] at h
  | some name => rcases List.mem_pair.mp h with rfl | rfl <;> rfl

/-- Every line of a router is owned once its name and its rule are the host's. -/
theorem ownedLine_of_mem {r : Router} (hname : policy.startsBlock e (r.name ++ [':']) = true)
    (hrule : e.marker <:+: r.rule) (h : line ∈ r.lines) : OwnedLine policy e line := by
  rcases mem_lines.mp h with rfl | rfl | rfl | h | h | rfl
  · exact .inl hname
  · exact .inl (startsBlock_of_marker (hrule.trans (List.infix_append_right ..)))
  · exact ownedLine_of_head rfl
  · exact ownedLine_of_head (head?_of_mem_attachment h)
  · exact ownedLine_of_head (head?_of_mem_tlsLines h)
  · exact .inr (.inl rfl)

theorem newline_not_mem {r : Router} (hname : '\n' ∉ r.name) (hrule : '\n' ∉ r.rule)
    (hservice : '\n' ∉ r.service) (hattached : ∀ l ∈ r.attachment.lines, '\n' ∉ l)
    (htls : ∀ l ∈ tlsLines r.certResolver, '\n' ∉ l) (h : line ∈ r.lines) : '\n' ∉ line := by
  rcases mem_lines.mp h with rfl | rfl | rfl | h | h | rfl
  · rw [List.mem_append, not_or]
    exact ⟨hname, by decide⟩
  · rw [List.mem_append, not_or]
    exact ⟨by decide, hrule⟩
  · rw [List.mem_append, not_or]
    exact ⟨by decide, hservice⟩
  · exact hattached _ h
  · exact htls _ h
  · exact List.not_mem_nil

theorem newline_not_mem_tlsLines {resolver : Text} (h : '\n' ∉ resolver) :
    ∀ l ∈ tlsLines (some resolver), '\n' ∉ l := by
  intro l hl
  rcases List.mem_pair.mp hl with rfl | rfl
  · decide
  · rw [List.mem_append, not_or]
    exact ⟨by decide, h⟩

end Router

theorem Attachment.newline_not_mem_middleware {name : Text} (h : '\n' ∉ name) :
    ∀ l ∈ (Attachment.middleware name).lines, '\n' ∉ l := by
  intro l hl
  rcases List.mem_pair.mp hl with rfl | rfl
  · decide
  · rw [List.mem_append, not_or]
    exact ⟨by decide, h⟩

/-- A header comment and the two routers under it. -/
structure RouterGroup where
  kind : BlockKind
  rule : Text
  service : Text
  plain : Attachment
  secure : Attachment

namespace RouterGroup

def routers (g : RouterGroup) (tag certResolver : Text) : List Router :=
  Router.pair (g.kind.name tag) g.rule g.service certResolver g.plain g.secure

def lines (g : RouterGroup) (policy : MatchPolicy) (e : Entity) (certResolver : Text) : List Text :=
  RoutingPlan.groupLines (g.kind.comment e) (g.routers (policy.tag e) certResolver)

theorem mem_lines {g : RouterGroup} {certResolver : Text} :
    line ∈ g.lines policy e certResolver ↔ line = g.kind.comment e ∨
      ∃ r ∈ g.routers (policy.tag e) certResolver, line ∈ r.lines := by
  rw [lines, RoutingPlan.groupLines, List.mem_cons, List.mem_flatMap]

/-- The name of a router of a group is the generated one, with something behind it. -/
theorem exists_name_eq {g : RouterGroup} {tag certResolver : Text} {r : Router}
    (h : r ∈ g.routers tag certResolver) : ∃ more ∈ [[], "-websecure".toList],
      r.name = g.kind.name tag ++ more := by
  rcases List.mem_pair.mp h with rfl | rfl
  · exact ⟨[], by simp, (List.append_nil _).symm⟩
  · exact ⟨_, by simp, rfl⟩

theorem rule_eq {g : RouterGroup} {tag certResolver : Text} {r : Router}
    (h : r ∈ g.routers tag certResolver) : r.rule = g.rule := by
  rcases List.mem_pair.mp h with rfl | rfl <;> rfl

theorem ownedLine_of_mem {g : RouterGroup} {certResolver : Text} (hrule : e.marker <:+: g.rule)
    (h : line ∈ g.lines policy e certResolver) : OwnedLine policy e line := by
  rcases mem_lines.mp h with rfl | ⟨r, hr, hl⟩
  · exact .inl (g.kind.startsBlock_comment)
  · obtain ⟨more, _, hn⟩ := exists_name_eq hr
    refine Router.ownedLine_of_mem ?_ ?_ hl
    · rw [hn]
      exact g.kind.startsBlock_name more
    · rw [rule_eq hr]
      exact hrule

theorem newline_not_mem {g : RouterGroup} {certResolver : Text} (he : '\n' ∉ e.host)
    (hrule : '\n' ∉ g.rule) (hservice : '\n' ∉ g.service) (hplain : ∀ l ∈ g.plain.lines, '\n' ∉ l)
    (hsecure : ∀ l ∈ g.secure.lines, '\n' ∉ l) (hresolver : '\n' ∉ certResolver)
    (h : line ∈ g.lines policy e certResolver) : '\n' ∉ line := by
  rcases mem_lines.mp h with rfl | ⟨r, hr, hl⟩
  · exact g.kind.newline_not_mem_comment he
  · have hname : '\n' ∉ g.kind.name (policy.tag e) := g.kind.newline_not_mem_name he
    rcases List.mem_pair.mp hr with rfl | rfl
    · exact Router.newline_not_mem hname hrule hservice hplain (by simp [Router.tlsLines]) hl
    · refine Router.newline_not_mem ?_ hrule hservice hsecure
        (Router.newline_not_mem_tlsLines hresolver) hl
      rw [List.mem_append, not_or]
      exact ⟨hname, by decide⟩

end RouterGroup

/-- The attachments that are the same for every plan have no line feeds. -/
theorem newline_not_mem_fixed_attachment :
    ∀ a ∈ [webEntryPoint, secureEntryPoint, .noMiddlewares], ∀ l ∈ a.lines, '\n' ∉ l := by decide

namespace RoutingPlan

def groups (plan : RoutingPlan) (policy : MatchPolicy) (e : Entity) : List RouterGroup :=
  if plan.separate then
    [⟨.backendRouter, e.marker ++ " && PathPrefix(`/api`)".toList, plan.backend,
        plan.attachments.1, plan.attachments.2⟩,
      ⟨.frontendRouter, e.marker ++ " && !PathPrefix(`/api`)".toList, plan.frontend,
        plan.attachments.1, plan.attachments.2⟩]
  else
    [⟨.router, e.marker, BlockKind.service.name (policy.tag e), webEntryPoint, secureEntryPoint⟩]

theorem routerLines_eq_flatMap (plan : RoutingPlan) (policy : MatchPolicy) (e : Entity) :
    plan.routerLines policy e =
      (plan.groups policy e).flatMap fun g => g.lines policy e plan.certResolver := by
  unfold routerLines groups
  dsimp only
  split_ifs
  · rw [List.flatMap_cons, List.flatMap_singleton]
    rfl
  · rw [List.flatMap_singleton]
    rfl

/-- Every line generated for a host: its routers and, for a shared service, the service. -/
def generatedLines (plan : RoutingPlan) (policy : MatchPolicy) (e : Entity) : List Text :=
  plan.routerLines policy e ++ if plan.separate then [] else plan.serviceLines policy e

theorem marker_isInfix_rule {g : RouterGroup} (h : g ∈ plan.groups policy e) :
    e.marker <:+: g.rule := by
  unfold groups at h
  split_ifs at h
  · rcases List.mem_pair.mp h with rfl | rfl <;> exact List.infix_append_left ..
  · obtain rfl := List.mem_singleton.mp h
    exact List.infix_rfl

theorem newline_not_mem_rule {g : RouterGroup} (he : '\n' ∉ e.host)
    (h : g ∈ plan.groups policy e) : '\n' ∉ g.rule := by
  have hm := e.newline_not_mem_marker he
  unfold groups at h
  split_ifs at h
  · rcases List.mem_pair.mp h with rfl | rfl <;>
    · rw [List.mem_append, not_or]
      exact ⟨hm, by decide⟩
  · rwa [List.mem_singleton.mp h]

theorem head?_routerLines (plan : RoutingPlan) (policy : MatchPolicy) (e : Entity) :
    ∃ kind : BlockKind, (plan.routerLines policy e).head? = some (kind.comment e) := by
  unfold routerLines
  cases plan.separate
  · exact ⟨.router, rfl⟩
  · exact ⟨.backendRouter, rfl⟩

theorem ownedLine_of_mem_routerLines (h : line ∈ plan.routerLines policy e) :
    OwnedLine policy e line := by
  rw [routerLines_eq_flatMap] at h
  obtain ⟨g, hg, hl⟩ := List.mem_flatMap.mp h
  exact RouterGroup.ownedLine_of_mem (marker_isInfix_rule hg) hl

theorem mem_serviceLines : line ∈ plan.serviceLines policy e ↔
    line = BlockKind.service.comment e ∨ line = BlockKind.service.name (policy.tag e) ++ [':'] ∨
    line = "  loadBalancer:".toList ∨ line = "    servers:".toList ∨
    line = "    - url: http://".toList ++ plan.backend ++ [':'] ++ Text.ofNat plan.port.toNat ∨
    line = "    passHostHeader: true".toList ∨ line = [] := by
  simp only [serviceLines, List.mem_cons, List.not_mem_nil, or_false]

theorem ownedLine_of_mem_serviceLines (h : line ∈ plan.serviceLines policy e) :
    OwnedLine policy e line := by
  rcases mem_serviceLines.mp h with rfl | rfl | rfl | rfl | rfl | rfl | rfl
  · exact .inl (BlockKind.service.startsBlock_comment)
  · have : policy.startsBlock e (BlockKind.service.name (policy.tag e) ++ [] ++ [':']) = true :=
      BlockKind.service.startsBlock_name []
    rw [List.append_nil] at this
    exact .inl this
  · exact ownedLine_of_head rfl
  · exact ownedLine_of_head rfl
  · exact ownedLine_of_head rfl
  · exact ownedLine_of_head rfl
  · exact .inr (.inl rfl)

theorem newline_not_mem_attachments (hp : plan.OneLine) :
    (∀ l ∈ plan.attachments.1.lines, '\n' ∉ l) ∧ ∀ l ∈ plan.attachments.2.lines, '\n' ∉ l := by
  unfold attachments
  split_ifs
  · exact ⟨newline_not_mem_fixed_attachment _ (by simp),
      newline_not_mem_fixed_attachment _ (by simp)⟩
  · exact ⟨Attachment.newline_not_mem_middleware hp.redirectMiddleware,
      newline_not_mem_fixed_attachment _ (by simp)⟩

theorem newline_not_mem_routerLines (he : '\n' ∉ e.host) (hp : plan.OneLine)
    (h : line ∈ plan.routerLines policy e) : '\n' ∉ line := by
  obtain ⟨hplain, hsecure⟩ := newline_not_mem_attachments hp
  rw [routerLines_eq_flatMap] at h
  obtain ⟨g, hg, hl⟩ := List.mem_flatMap.mp h
  have hrule := newline_not_mem_rule he hg
  unfold groups at hg
  split_ifs at hg
  · rcases List.mem_pair.mp hg with rfl | rfl
    · exact RouterGroup.newline_not_mem he hrule hp.backend hplain hsecure hp.certResolver hl
    · exact RouterGroup.newline_not_mem he hrule hp.frontend hplain hsecure hp.certResolver hl
  · rw [List.mem_singleton] at hg
    subst hg
    exact RouterGroup.newline_not_mem he hrule (BlockKind.service.newline_not_mem_name he)
      (newline_not_mem_fixed_attachment _ (by simp)) (newline_not_mem_fixed_attachment _ (by simp))
      hp.certResolver hl

/-- The routers to a shared service write no other text of the plan than the resolver. -/
theorem newline_not_mem_routerLines_shared (he : '\n' ∉ e.host) (hs : plan.separate = false)
    (hr : '\n' ∉ plan.certResolver) (h : line ∈ plan.routerLines policy e) : '\n' ∉ line := by
  let bare : RoutingPlan :=
    { plan with backend := [], frontend := [], separate := false, redirectMiddleware := [] }
  have hbare : bare.OneLine := ⟨List.not_mem_nil, List.not_mem_nil, hr, List.not_mem_nil⟩
  have hsame : plan.routerLines policy e = bare.routerLines policy e := by
    simp only [routerLines, hs, bare]
    rfl
  rw [hsame] at h
  exact newline_not_mem_routerLines he hbare h

theorem isDigit_of_mem_ofNat {c : Char} {n : Nat} (h : c ∈ Text.ofNat n) : c.isDigit = true :=
  Nat.isDigit_of_mem_toDigits (by decide) (by decide) h

theorem not_mem_ofNat {c : Char} (h : c.isDigit = false) (n : Nat) : c ∉ Text.ofNat n := by
  intro hc
  rw [isDigit_of_mem_ofNat hc] at h
  cases h

theorem newline_not_mem_serviceLines (he : '\n' ∉ e.host) (hb : '\n' ∉ plan.backend)
    (h : line ∈ plan.serviceLines policy e) : '\n' ∉ line := by
  rcases mem_serviceLines.mp h with rfl | rfl | rfl | rfl | rfl | rfl | rfl
  · exact BlockKind.service.newline_not_mem_comment he
  · rw [List.mem_append, not_or]
    exact ⟨BlockKind.service.newline_not_mem_name he, by decide⟩
  · decide
  · decide
  · simp only [List.mem_append, not_or]
    exact ⟨⟨⟨by decide, hb⟩, by decide⟩, not_mem_ofNat (by decide) _⟩
  · decide
  · exact List.not_mem_nil

theorem newline_not_mem_generatedLines (he : '\n' ∉ e.host) (hp : plan.OneLine)
    (h : line ∈ plan.generatedLines policy e) : '\n' ∉ line := by
  rcases List.mem_append.mp h with h | h
  · exact newline_not_mem_routerLines he hp h
  · split_ifs at h
    · cases h
    · exact newline_not_mem_serviceLines he hp.backend h

/-- The rows of the router block, as they stand under `routers:`. -/
def routerRows (plan : RoutingPlan) (policy : MatchPolicy) (e : Entity) : List Text :=
  indentBlock (plan.routerBlock policy e) SectionHeader.routers.memberIndent

/-- The rows of the service block, as they stand under `services:`. -/
def serviceRows (plan : RoutingPlan) (policy : MatchPolicy) (e : Entity) : List Text :=
  indentBlock (plan.serviceBlock policy e) SectionHeader.services.memberIndent

end RoutingPlan

theorem indentBlock_ofLines {lines : List Text} (width : Nat) (h : ∀ l ∈ lines, '\n' ∉ l) :
    indentBlock (Text.ofLines lines) width =
      dropEndWhile List.isEmpty (lines.map fun l => indentLine width (dropReturn l)) ++ [[]] := by
  rw [indentBlock, terminatedLines_ofLines h, List.map_map]
  rfl

theorem exists_of_mem_indentBlock {lines : List Text} {width : Nat} (h : ∀ l ∈ lines, '\n' ∉ l)
    {row : Text} (hr : row ∈ indentBlock (Text.ofLines lines) width) :
    row = [] ∨ ∃ l ∈ lines, row = indentLine width (dropReturn l) := by
  rw [indentBlock_ofLines width h] at hr
  rcases List.mem_append.mp hr with hr | hr
  · obtain ⟨l, hl, he⟩ := List.mem_map.mp (mem_of_mem_dropEndWhile _ hr)
    exact .inr ⟨l, hl, he.symm⟩
  · exact .inl (List.mem_singleton.mp hr)

/-- A visible line stands in a block as long as it has no line feed itself. -/
theorem mem_indentBlock {lines : List Text} {width : Nat} (hl : line ∈ lines) (hn : '\n' ∉ line)
    (hb : isBlank line = false) :
    indentLine width (dropReturn line) ∈ indentBlock (Text.ofLines lines) width := by
  refine List.mem_append_left _
    (mem_dropEndWhile _ (List.mem_map_of_mem (mem_terminatedLines_ofLines hl hn)) ?_)
  rw [isEmpty_indentLine, isBlank_dropReturn, hb]

/-- A block begins with its first line, if that is visible. -/
theorem head?_indentBlock {l : Text} {lines : List Text} (width : Nat)
    (h : ∀ x ∈ l :: lines, '\n' ∉ x) (hb : isBlank l = false) :
    (indentBlock (Text.ofLines (l :: lines)) width).head? =
      some (indentLine width (dropReturn l)) := by
  have hne : (indentLine width (dropReturn l)).isEmpty = false := by
    rw [isEmpty_indentLine, isBlank_dropReturn, hb]
  rw [indentBlock_ofLines width h, List.map_cons, dropEndWhile_cons_of_neg _ _ hne]
  rfl

/-- The rows that a scan for the host drops as one block. -/
structure OwnedRows (policy : MatchPolicy) (e : Entity) (rows : List Text) : Prop where
  first : ∃ row ∈ rows.head?, policy.startsBlock e row = true
  rest : ∀ row ∈ rows, policy.startsBlock e row = true ∨ isBlank row = true ∨ 4 < indentOf row

theorem ownedRow_of_ownedLine (h : OwnedLine policy e line) :
    policy.startsBlock e (indentLine 4 (dropReturn line)) = true ∨
      isBlank (indentLine 4 (dropReturn line)) = true ∨
      4 < indentOf (indentLine 4 (dropReturn line)) := by
  rw [startsBlock_indentLine, startsBlock_dropReturn, isBlank_indentLine, isBlank_dropReturn]
  cases hb : isBlank line with
  | true => exact .inr (.inl rfl)
  | false =>
      rw [indentLine_of_not_isBlank 4 (by rw [isBlank_dropReturn, hb]), indentOf_replicate_append,
        indentOf_dropReturn]
      rcases h with h | h | h
      · exact .inl h
      · rw [hb] at h
        cases h
      · exact .inr (.inr (by omega))

/-- Rows made from owned lines, the first of which opens a block, go together. -/
theorem ownedRows_indentBlock {lines : List Text} (hn : ∀ l ∈ lines, '\n' ∉ l)
    (hfirst : ∃ l ∈ lines.head?, policy.startsBlock e l = true)
    (howned : ∀ l ∈ lines, OwnedLine policy e l) :
    OwnedRows policy e (indentBlock (Text.ofLines lines) 4) where
  first := by
    obtain ⟨l, hl, hs⟩ := hfirst
    obtain ⟨rest, rfl⟩ := List.head?_eq_some_iff.mp hl
    refine ⟨_, head?_indentBlock 4 hn (not_isBlank_of_startsBlock hs), ?_⟩
    rw [startsBlock_indentLine, startsBlock_dropReturn, hs]
  rest := by
    intro row hr
    rcases exists_of_mem_indentBlock hn hr with rfl | ⟨l, hl, rfl⟩
    · exact .inr (.inl rfl)
    · exact ownedRow_of_ownedLine (howned l hl)

namespace RoutingPlan

theorem ownedRows_routerRows (he : '\n' ∉ e.host) (hp : plan.OneLine) :
    OwnedRows policy e (plan.routerRows policy e) := by
  refine ownedRows_indentBlock (fun l hl => newline_not_mem_routerLines he hp hl) ?_
    fun l hl => ownedLine_of_mem_routerLines hl
  obtain ⟨kind, hk⟩ := plan.head?_routerLines policy e
  exact ⟨_, hk, kind.startsBlock_comment⟩

theorem ownedRows_serviceRows (he : '\n' ∉ e.host) (hp : plan.OneLine) :
    OwnedRows policy e (plan.serviceRows policy e) := by
  refine ownedRows_indentBlock (fun l hl => newline_not_mem_serviceLines he hp.backend hl) ?_
    fun l hl => ownedLine_of_mem_serviceLines hl
  exact ⟨_, rfl, BlockKind.service.startsBlock_comment⟩

end RoutingPlan

/-- No row of an indented block is shallow, whatever the block is. -/
theorem isShallow_of_mem_indentBlock {block row : Text} {width n : Nat} (h : n < width)
    (hr : row ∈ indentBlock block width) : isShallow n row = false := by
  rcases List.mem_append.mp hr with hr | hr
  · obtain ⟨l, _, rfl⟩ := List.mem_map.mp (mem_of_mem_dropEndWhile _ hr)
    exact indentLine_not_isShallow h l
  · rw [List.mem_singleton.mp hr]
    rfl

/-- A row opens a block of a host just as the line that it was made from. -/
theorem startsBlock_of_mem_indentBlock {lines : List Text} {width : Nat}
    (hn : ∀ l ∈ lines, '\n' ∉ l) (h : ∀ l ∈ lines, policy.startsBlock e l = false) {row : Text}
    (hr : row ∈ indentBlock (Text.ofLines lines) width) : policy.startsBlock e row = false := by
  rcases exists_of_mem_indentBlock hn hr with rfl | ⟨l, hl, rfl⟩
  · exact startsBlock_of_isBlank rfl
  · rw [startsBlock_indentLine, startsBlock_dropReturn, h l hl]

namespace RoutingPlan

/-- The rules of a host stand among the rows of its router block, whatever else the plan writes. -/
theorem exists_marker_mem_routerRows (he : '\n' ∉ e.host) :
    ∃ row ∈ plan.routerRows policy e, e.marker <:+: row := by
  obtain ⟨g, hg⟩ : ∃ g, g ∈ plan.groups policy e := by
    unfold groups
    split_ifs <;> exact ⟨_, List.mem_cons_self⟩
  let r : Router := ⟨g.kind.name (policy.tag e), g.rule, g.service, g.plain, none⟩
  have hline : "  rule: ".toList ++ g.rule ∈ plan.routerLines policy e := by
    rw [routerLines_eq_flatMap]
    refine List.mem_flatMap.mpr ⟨g, hg, RouterGroup.mem_lines.mpr (.inr ⟨r, ?_, ?_⟩)⟩
    · exact List.mem_cons_self
    · exact Router.mem_lines.mpr (.inr (.inl rfl))
  have hn : '\n' ∉ "  rule: ".toList ++ g.rule := by
    rw [List.mem_append, not_or]
    exact ⟨by decide, newline_not_mem_rule he hg⟩
  have hm : e.marker <:+: "  rule: ".toList ++ g.rule :=
    (marker_isInfix_rule hg).trans (List.suffix_append ..).isInfix
  have hb := Entity.not_isBlank_of_marker_isInfix hm
  refine ⟨_, mem_indentBlock hline hn hb, ?_⟩
  rw [indentLine_of_not_isBlank _ (by rw [isBlank_dropReturn, hb]),
    Entity.marker_isInfix_replicate_append, Entity.marker_isInfix_dropReturn]
  exact hm

end RoutingPlan
end HostRouting
