import HostRouting.Proofs.Document.Frame
import HostRouting.Proofs.Document.Generated

/-!
# Which hosts are told apart

For hosts without white space and backticks the marker and the comments tell any two of them
apart. What remains are the names, where one tag may run on into the generated endings
of the other, and texts of a plan that spell out the marker of the other host. Both
are named here exactly, so that a removal leaves another host alone if and only if neither
happens.
-/
namespace HostRouting
open Text

/-- No white space and no backtick, as in any host name. -/
def Entity.Clean (e : Entity) : Prop := ∀ c ∈ e.host, isSpace c = false ∧ c ≠ '\x60'

instance (e : Entity) : Decidable e.Clean :=
  List.decidableBAll (fun c => isSpace c = false ∧ c ≠ '\x60') e.host

/-- What a tag may have behind it to make a name ambiguous. -/
def joints : List Text := ["-backend".toList, "-frontend".toList]

/-- The ways in which a name of the tag `b` begins like a name of another tag `a`: the tag `b` goes
on behind `a` with an ending, or a tag with `-backend` or `-frontend` behind it is the other one. -/
def TagClash (separate : Bool) (a b : Text) : Prop :=
  (∃ kind ∈ BlockKind.all, kind.name a <+: b) ∨
    ∃ w ∈ joints, if separate then a = b ++ w else b = a ++ w

instance (separate : Bool) (a b : Text) : Decidable (TagClash separate a b) :=
  inferInstanceAs (Decidable (_ ∨ _))

namespace Entity

variable {e f : Entity}

theorem host_injective (h : e.host = f.host) : e = f := by
  cases e
  cases f
  cases h
  rfl

theorem Clean.newline_not_mem (h : e.Clean) : '\n' ∉ e.host :=
  fun hc => absurd (h _ hc).1 (by decide)

theorem Clean.backtick_not_mem (h : e.Clean) : '\x60' ∉ e.host := fun hc => (h _ hc).2 rfl

theorem Clean.tag (h : e.Clean) (policy : MatchPolicy) :
    ∀ c ∈ policy.tag e, isSpace c = false ∧ c ≠ '\x60' := by
  intro c hc
  cases policy with
  | firstLabel => exact h c ((List.takeWhile_sublist _).subset hc)
  | fullHost =>
      obtain ⟨x, hx, he⟩ := List.mem_map.mp hc
      split_ifs at he with hd
      · rw [← he]
        decide
      · rw [← he]
        exact h x hx

/-- The marker as a text with separators. -/
theorem marker_eq_separated (e : Entity) :
    e.marker = "Host(".toList ++ '\x60' :: (e.host ++ '\x60' :: ")".toList) := rfl

theorem not_marker_isInfix {l : Text} (h : '\x60' ∉ l) : ¬ e.marker <:+: l := by
  intro hm
  apply h
  apply hm.subset
  rw [marker_eq_separated]
  simp

/-- The marker stands in a text between a fixed lead and trail only if it stands in the text. -/
theorem marker_isInfix_between {lead t trail : Text} (hlead : 'H' ∉ lead) (htrail : ')' ∉ trail)
    (h : e.marker <:+: lead ++ (t ++ trail)) : e.marker <:+: t := by
  rw [marker_eq, isInfix_append_left_iff hlead, ← marker_eq, marker_eq_concat,
    isInfix_append_right_iff htrail, ← marker_eq_concat] at h
  exact h

/-- Behind the host a rule ends, or goes on with a condition on paths. -/
theorem ruleEndings_eq {t : Text} (ht : t ∈ ruleEndings) : t = [] ∨
    ∃ p, ")".toList ++ t = p ++ '\x60' :: ("/api".toList ++ '\x60' :: ")".toList) ∧
      ' ' ∈ p ∧ '\x60' ∉ p ∧ ¬ "Host(".toList <:+ p := by
  simp only [ruleEndings, List.mem_cons, List.not_mem_nil, or_false] at ht
  rcases ht with rfl | rfl | rfl
  · exact .inl rfl
  · exact .inr ⟨") && PathPrefix(".toList, by decide, by decide, by decide, by decide⟩
  · exact .inr ⟨") && !PathPrefix(".toList, by decide, by decide, by decide, by decide⟩

/-- The rule of another host does not hold the marker. -/
theorem not_marker_isInfix_rule (he : e.Clean) (hf : f.Clean) (hne : e ≠ f) {t : Text}
    (ht : t ∈ ruleEndings) : ¬ e.marker <:+: "  rule: ".toList ++ (f.marker ++ t) := by
  have hrule : "  rule: ".toList ++ (f.marker ++ t) =
      "  rule: Host(".toList ++ '\x60' :: (f.host ++ '\x60' :: (")".toList ++ t)) := by
    rw [marker_eq_separated]
    simp only [List.append_assoc, List.cons_append]
    rfl
  have hopen : '\x60' ∉ "Host(".toList := by decide
  have hbehind : ¬ e.host ++ '\x60' :: ")".toList <+: ")".toList ++ t := by
    intro h
    rcases ruleEndings_eq ht with rfl | ⟨p, hp, hspace, hp', -⟩
    · have : '\x60' ∈ ")".toList := h.subset (by simp)
      exact absurd this (by decide)
    · rw [hp, isPrefix_separated_iff he.backtick_not_mem hp'] at h
      exact absurd (he _ (h.1 ▸ hspace)).1 (by decide)
  have hlast : ¬ e.marker <:+: ")".toList ++ t := by
    rcases ruleEndings_eq ht with rfl | ⟨p, hp, -, hp', hsuffix⟩
    · exact not_marker_isInfix (by decide)
    · rw [hp, marker_eq_separated, isInfix_separated_iff hopen hp',
        isInfix_separated_iff hopen (by decide), ← marker_eq_separated]
      rintro (h | h | h)
      · exact hsuffix h.1
      · exact absurd h.1 (by decide)
      · exact not_marker_isInfix (by decide) h
  rw [hrule, marker_eq_separated, isInfix_separated_iff hopen (by decide),
    isPrefix_separated_iff he.backtick_not_mem hf.backtick_not_mem,
    isInfix_separated_iff hopen hf.backtick_not_mem, ← marker_eq_separated]
  rintro (⟨-, hhost, -⟩ | ⟨-, h⟩ | h)
  · exact hne (host_injective hhost)
  · exact hbehind h
  · exact hlast h

end Entity

section
variable {policy : MatchPolicy} {e f : Entity} {plan : RoutingPlan} {l : Text}

namespace BlockKind

theorem comment_injective {kind kind' : BlockKind} (h : kind.comment e = kind'.comment f) :
    e = f := by
  have hstart : ∀ k : BlockKind, ∀ g : Entity, (k.comment g).take 3 = k.commentStart.take 3 := by
    intro k g
    exact List.take_append_of_le_length (by cases k <;> decide)
  have hkind : kind = kind' := by
    have := congrArg (List.take 3) h
    rw [hstart, hstart] at this
    revert this
    cases kind <;> cases kind' <;> decide
  subst hkind
  exact Entity.host_injective (List.append_cancel_left h)

theorem space_mem_comment (kind : BlockKind) (e : Entity) : ' ' ∈ kind.comment e := by
  apply List.mem_append_left
  cases kind <;> decide

theorem isSpace_of_mem_ending (kind : BlockKind) {c : Char} (h : c ∈ kind.ending) :
    isSpace c = false := by
  have hall : ∀ k : BlockKind, k.ending.all (!isSpace ·) = true := by
    intro k
    cases k <;> decide
  simpa using List.all_eq_true.mp (hall kind) c h

/-- A name in a trimmed line reaches to the end of a first word that is long enough. -/
theorem ending_isInfix_firstWord {kind : BlockKind} (he : e.Clean)
    (h : kind.name (policy.tag e) <+: trim l) : kind.ending <:+: firstWord l := by
  have hname : ∀ c ∈ kind.name (policy.tag e), isSpace c = false := by
    intro c hc
    rcases List.mem_append.mp hc with hc | hc
    · exact (he.tag policy c hc).1
    · exact kind.isSpace_of_mem_ending hc
  exact (List.suffix_append _ _).isInfix.trans (isPrefix_firstWord hname h).isInfix

end BlockKind

theorem firstWord_of_header (h : isHeaderComment e l = true) : firstWord l = ['#'] := by
  obtain ⟨kind, hk⟩ := (isHeaderComment_iff l).mp h
  rw [firstWord_eq_takeWhile_trim, hk, ← kind.trim_comment e, ← firstWord_eq_takeWhile_trim,
    kind.firstWord_comment]

theorem not_isInfix_of_mem_fieldWords {w : Text} (h : w ∈ ['#'] :: fieldWords)
    (kind : BlockKind) : ¬ kind.ending <:+: w := by
  revert w
  cases kind <;> decide

namespace GeneratedLine

theorem isSpace_of_mem_name (hf : f.Clean) {separate : Bool} {t : Text}
    (ht : t ∈ nameEndings separate) {c : Char} (hc : c ∈ policy.tag f ++ t) :
    isSpace c = false ∧ c ≠ '\x60' := by
  rcases List.mem_append.mp hc with hc | hc
  · exact hf.tag policy c hc
  · have hall : ∀ b, ∀ t ∈ nameEndings b, t.all (fun c => !isSpace c && c != '\x60') = true := by
      decide
    simpa using List.all_eq_true.mp (hall separate t ht) c hc

/-- A generated line holds the marker of another host only in a text of the plan. -/
theorem exists_text_of_marker (h : GeneratedLine plan policy f l) (he : e.Clean) (hf : f.Clean)
    (hne : e ≠ f) (hm : e.marker <:+: l) : ∃ t ∈ plan.texts, e.marker <:+: t := by
  have without : '\x60' ∉ l → ∃ t ∈ plan.texts, e.marker <:+: t :=
    fun hl => absurd hm (Entity.not_marker_isInfix hl)
  cases h with
  | comment kind =>
      apply without
      rw [BlockKind.comment, List.mem_append, not_or]
      exact ⟨by cases kind <;> decide, hf.backtick_not_mem⟩
  | name ht => exact without fun hc => (isSpace_of_mem_name hf ht hc).2 rfl
  | rule ht => exact absurd hm (Entity.not_marker_isInfix_rule he hf hne ht)
  | service =>
      apply without
      rw [List.mem_append, BlockKind.name, List.mem_append, not_or, not_or]
      exact ⟨by decide, fun hc => (hf.tag policy _ hc).2 rfl, by decide⟩
  | text hlead ht htrail =>
      have hlead' : 'H' ∉ _ := (by decide : ∀ lead ∈ textLeads, 'H' ∉ lead) _ hlead
      exact ⟨_, ht, Entity.marker_isInfix_between hlead' htrail hm⟩
  | fixed ht => exact without ((by decide : ∀ t ∈ fixedLines, '\x60' ∉ t) l ht)

/-- No generated line is a header comment of another host. -/
theorem not_isHeaderComment (h : GeneratedLine plan policy f l) (hf : f.Clean) (hne : e ≠ f) :
    isHeaderComment e l = false := by
  rw [Bool.eq_false_iff]
  intro hc
  rcases h.firstWord_mem with ⟨kind, rfl⟩ | ⟨t, ht, rfl⟩ | hw
  · obtain ⟨kind', hk⟩ := (isHeaderComment_iff _).mp hc
    rw [kind.trim_comment] at hk
    exact hne (BlockKind.comment_injective hk).symm
  · obtain ⟨kind, hk⟩ := (isHeaderComment_iff _).mp hc
    have hspace : ' ' ∈ trim (policy.tag f ++ t) := hk ▸ kind.space_mem_comment e
    exact absurd (isSpace_of_mem_name hf ht (mem_of_mem_trim hspace)).1 (by decide)
  · rw [firstWord_of_header hc] at hw
    revert hw
    decide

/-- Only the lines of names can begin with a name of another host. -/
theorem exists_name_of_isPrefix (h : GeneratedLine plan policy f l) (he : e.Clean) (hf : f.Clean)
    {kind : BlockKind} (hn : kind.name (policy.tag e) <+: trim l) :
    ∃ t ∈ nameEndings plan.separate, kind.name (policy.tag e) <+: policy.tag f ++ t := by
  have hword := BlockKind.ending_isInfix_firstWord he hn
  rcases h.firstWord_mem with ⟨kind', rfl⟩ | ⟨t, ht, rfl⟩ | hw
  · rw [kind'.firstWord_comment] at hword
    exact absurd hword (not_isInfix_of_mem_fieldWords List.mem_cons_self kind)
  · rw [trim_eq_self_of_visible fun c hc => (isSpace_of_mem_name hf ht hc).1] at hn
    exact ⟨t, ht, hn⟩
  · exact absurd hword (not_isInfix_of_mem_fieldWords (List.mem_cons_of_mem _ hw) kind)

end GeneratedLine

/-- Where the ending of a name reaches across the end of the other tag. -/
theorem ending_overlap : ∀ separate, ∀ t ∈ nameEndings separate, ∀ kind ∈ BlockKind.all,
    ∀ i < kind.ending.length, kind.ending.drop i <+: t → kind.ending.take i = [] ∨
      separate = false ∧ kind.ending.take i ∈ joints := by
  intro separate
  cases separate <;> decide

/-- Where the tag of a name reaches into the ending of the other. -/
theorem tag_overlap : ∀ separate, ∀ t ∈ nameEndings separate, ∀ kind ∈ BlockKind.all,
    ∀ i ≤ t.length, t.take i ++ kind.ending <+: t → t.take i = [] ∨
      separate = true ∧ t.take i ∈ joints := by
  intro separate
  cases separate <;> decide

/-- A name of one tag begins a name of another exactly when the tags are equal or clash. -/
theorem exists_name_isPrefix_iff (separate : Bool) (a b : Text) :
    (∃ kind : BlockKind, ∃ t ∈ nameEndings separate, kind.name a <+: b ++ t) ↔
      a = b ∨ TagClash separate a b := by
  constructor
  · rintro ⟨kind, t, ht, h⟩
    rw [BlockKind.name, append_isPrefix_append_iff] at h
    rcases h with h | ⟨i, hi, rfl, h⟩ | ⟨i, hi, rfl, h⟩
    · exact .inr (.inl ⟨kind, kind.mem_all, h⟩)
    · rcases ending_overlap separate t ht kind kind.mem_all i hi h with he | ⟨rfl, hw⟩
      · exact .inl (by rw [he, List.append_nil])
      · exact .inr (.inr ⟨_, hw, rfl⟩)
    · rcases tag_overlap separate t ht kind kind.mem_all i hi h with he | ⟨rfl, hw⟩
      · exact .inl (by rw [he, List.append_nil])
      · exact .inr (.inr ⟨_, hw, rfl⟩)
  · have hequal : ∀ separate, ∃ kind ∈ BlockKind.all, ∃ t ∈ nameEndings separate,
        kind.ending <+: t := by decide
    have hlonger : ∀ w ∈ joints, ∃ kind ∈ BlockKind.all, ∃ t ∈ nameEndings true,
        w ++ kind.ending <+: t := by decide
    have hshorter : ∀ w ∈ joints, ∃ kind ∈ BlockKind.all, ∃ t ∈ nameEndings false,
        kind.ending <+: w ++ t := by decide
    obtain ⟨kind₀, -, t₀, ht₀, h₀⟩ := hequal separate
    rintro (rfl | ⟨kind, -, h⟩ | ⟨w, hw, h⟩)
    · exact ⟨kind₀, t₀, ht₀, (List.prefix_append_right_inj _).mpr h₀⟩
    · exact ⟨kind, t₀, ht₀, h.trans (List.prefix_append _ _)⟩
    · cases separate with
      | true =>
          obtain ⟨kind, -, t, ht, hpre⟩ := hlonger w hw
          refine ⟨kind, t, ht, ?_⟩
          rw [show a = b ++ w from h, BlockKind.name, List.append_assoc]
          exact (List.prefix_append_right_inj _).mpr hpre
      | false =>
          obtain ⟨kind, -, t, ht, hpre⟩ := hshorter w hw
          refine ⟨kind, t, ht, ?_⟩
          rw [show b = a ++ w from h, BlockKind.name, List.append_assoc]
          exact (List.prefix_append_right_inj _).mpr hpre

/-- The lines generated for a host open no block of another exactly when the tags differ and do not
clash and no text of the plan spells out the other's marker. -/
theorem startsBlock_generatedLines_iff (he : e.Clean) (hf : f.Clean) (hne : e ≠ f) :
    (∀ l ∈ plan.generatedLines policy f, policy.startsBlock e l = false) ↔
      policy.tag e ≠ policy.tag f ∧ ¬ TagClash plan.separate (policy.tag e) (policy.tag f) ∧
        ∀ t ∈ plan.texts, ¬ e.marker <:+: t := by
  rw [← and_assoc, ← not_or, ← exists_name_isPrefix_iff]
  constructor
  · intro h
    refine ⟨?_, ?_⟩
    · rintro ⟨kind, t, ht, hpre⟩
      have hline := h _ (RoutingPlan.name_mem_generatedLines ht)
      rw [startsBlock_of_name kind] at hline
      · cases hline
      · rwa [trim_eq_self_of_visible fun c hc => (GeneratedLine.isSpace_of_mem_name hf ht hc).1]
    · intro t ht hm
      obtain ⟨l, hl, htl⟩ := RoutingPlan.exists_mem_generatedLines_of_text ht
      have hline := h l hl
      rw [startsBlock_of_marker (hm.trans htl)] at hline
      cases hline
  · rintro ⟨hname, htext⟩ l hl
    have hshape := GeneratedLine.of_mem hl
    rw [Bool.eq_false_iff, ne_eq, startsBlock_iff, ← isHeaderComment_iff,
      hshape.not_isHeaderComment hf hne]
    rintro (hm | hc | ⟨kind, hk⟩)
    · obtain ⟨t, ht, hm⟩ := hshape.exists_text_of_marker he hf hne hm
      exact htext t ht hm
    · cases hc
    · exact hname ⟨kind, hshape.exists_name_of_isPrefix he hf hk⟩

/-- Adding one host and removing another, of which the document has no line, takes something. -/
structure Disturbed (policy : MatchPolicy) (removed added : Entity) (plan : RoutingPlan)
    (d : Document) : Prop where
  clean_removed : removed.Clean
  clean_added : added.Clean
  oneLine : plan.OneLine
  free : ∀ l ∈ d.lines, policy.startsBlock removed l = false
  taken : ∃ d', d.addHost policy added plan = .ok (.inserted d') ∧
    d'.removeHost policy removed ≠ d'.trimBlankEdges

theorem Disturbed.of_inserted {d d' : Document} (hhosts : e.Clean ∧ f.Clean ∧ e ≠ f)
    (hp : plan.OneLine) (hfree : ∀ l ∈ d.lines, policy.startsBlock e l = false)
    (h : d.addHost policy f plan = .ok (.inserted d'))
    (hclash : policy.tag e = policy.tag f ∨
      TagClash plan.separate (policy.tag e) (policy.tag f) ∨ ∃ t ∈ plan.texts, e.marker <:+: t) :
    Disturbed policy e f plan d := by
  obtain ⟨he, hf, hne⟩ := hhosts
  refine ⟨he, hf, hp, hfree, d', h, ?_⟩
  rw [ne_eq, Document.removeHost_addHost_other_iff hf.newline_not_mem hp hfree h,
    startsBlock_generatedLines_iff he hf hne]
  rintro ⟨htag, hnames, htexts⟩
  rcases hclash with hc | hc | ⟨t, ht, hm⟩
  · exact htag hc
  · exact hnames hc
  · exact htexts t ht hm

namespace Document

variable {d d' : Document}

/-- Under the default policy a removal leaves a host with another first label alone exactly when the
labels do not clash and no text of the plan spells out the removed host's marker. -/
theorem removeHost_other_label_iff (he : e.Clean) (hf : f.Clean)
    (hlabel : e.firstLabel ≠ f.firstLabel) (hp : plan.OneLine)
    (hfree : ∀ l ∈ d.lines, MatchPolicy.firstLabel.startsBlock e l = false)
    (h : d.addHost .firstLabel f plan = .ok (.inserted d')) :
    d'.removeHost .firstLabel e = d'.trimBlankEdges ↔
      ¬ TagClash plan.separate e.firstLabel f.firstLabel ∧ ∀ t ∈ plan.texts, ¬ e.marker <:+: t := by
  have hne : e ≠ f := fun heq => hlabel (heq ▸ rfl)
  rw [removeHost_addHost_other_iff hf.newline_not_mem hp hfree h,
    startsBlock_generatedLines_iff he hf hne]
  exact and_iff_right hlabel

def shopBackendHost : Entity := ⟨"shop-backend.example".toList, by decide, by decide⟩

def shopRouterHost : Entity := ⟨"shop-router.example".toList, by decide, by decide⟩

def blogHost : Entity := ⟨"blog.example".toList, by decide, by decide⟩

def oneService : RoutingPlan := { twoServices with separate := false }

/-- A plan whose backend is written like the rule of a host. -/
def quotingPlan : RoutingPlan := { twoServices with backend := shopHost.marker }

theorem bareSections_free (policy : MatchPolicy) (e : Entity) :
    ∀ l ∈ bareSections.lines, policy.startsBlock e l = false := by
  have hplain : ∀ l ∈ bareSections.lines, '\x60' ∉ l ∧ '#' ∉ l ∧ '-' ∉ l := by decide
  exact fun l hl => startsBlock_of_plain (hplain l hl)

theorem oneLine_samples : twoServices.OneLine ∧ oneService.OneLine ∧ quotingPlan.OneLine := by
  refine ⟨?_, ?_, ?_⟩ <;> constructor <;> decide

theorem removeHost_other_label_sample : ∃ d',
    bareSections.addHost .firstLabel blogHost twoServices = .ok (.inserted d') ∧
      d'.removeHost .firstLabel shopHost = d'.trimBlankEdges := by
  have hclean : shopHost.Clean := by decide
  have hclean' : blogHost.Clean := by decide
  have hlabel : shopHost.firstLabel ≠ blogHost.firstLabel := by decide
  refine ⟨_, rfl, (removeHost_other_label_iff hclean hclean' hlabel oneLine_samples.1
    (bareSections_free _ _) rfl).mpr ?_⟩
  decide +kernel

/-- Different first labels are not enough: one may be the other with an ending behind it, in either
direction, and a plan may quote a marker. -/
theorem removeHost_disturbs_other_labels :
    (shopBackendHost.firstLabel ≠ shopHost.firstLabel ∧
      Disturbed .firstLabel shopBackendHost shopHost twoServices bareSections) ∧
    (shopHost.firstLabel ≠ shopBackendHost.firstLabel ∧
      Disturbed .firstLabel shopHost shopBackendHost oneService bareSections) ∧
    (shopHost.firstLabel ≠ shopRouterHost.firstLabel ∧
      Disturbed .firstLabel shopHost shopRouterHost twoServices bareSections) ∧
    shopHost.firstLabel ≠ blogHost.firstLabel ∧
      Disturbed .firstLabel shopHost blogHost quotingPlan bareSections := by
  obtain ⟨htwo, hone, hquoting⟩ := oneLine_samples
  refine ⟨⟨by decide, ?_⟩, ⟨by decide, ?_⟩, ⟨by decide, ?_⟩, by decide, ?_⟩
  · exact .of_inserted (by decide) htwo (bareSections_free _ _) rfl
      (.inr (.inl (by decide)))
  · exact .of_inserted (by decide) hone (bareSections_free _ _) rfl
      (.inr (.inl (by decide)))
  · exact .of_inserted (by decide) htwo (bareSections_free _ _) rfl
      (.inr (.inl (by decide)))
  · exact .of_inserted (by decide) hquoting (bareSections_free _ _) rfl
      (.inr (.inr (by decide)))

/-- Under the strict policy a removal leaves another host alone exactly when the hosts differ in
more than dots and dashes, their tags do not clash, and no text of the plan spells out the
removed host's marker. -/
theorem removeHost_other_host_iff (he : e.Clean) (hf : f.Clean) (hne : e ≠ f)
    (hp : plan.OneLine) (hfree : ∀ l ∈ d.lines, MatchPolicy.fullHost.startsBlock e l = false)
    (h : d.addHost .fullHost f plan = .ok (.inserted d')) :
    d'.removeHost .fullHost e = d'.trimBlankEdges ↔
      replaceChar '.' '-' e.host ≠ replaceChar '.' '-' f.host ∧
        ¬ TagClash plan.separate (replaceChar '.' '-' e.host) (replaceChar '.' '-' f.host) ∧
          ∀ t ∈ plan.texts, ¬ e.marker <:+: t := by
  rw [removeHost_addHost_other_iff hf.newline_not_mem hp hfree h,
    startsBlock_generatedLines_iff he hf hne]
  rfl

/-- A host whose tag is that of another host, with a dash in place of a dot. -/
def dottedHost : Entity := ⟨"my.shop.example".toList, by decide, by decide⟩

def dashedHost : Entity := ⟨"my-shop.example".toList, by decide, by decide⟩

/-- A host whose tag goes on behind that of `shopHost` with an ending. -/
def longerHost : Entity := ⟨"shop.example-backend".toList, by decide, by decide⟩

theorem removeHost_other_host_sample : ∃ d',
    bareSections.addHost .fullHost dottedHost oneService = .ok (.inserted d') ∧
      d'.removeHost .fullHost shopHost = d'.trimBlankEdges := by
  have hclean : shopHost.Clean := by decide
  have hclean' : dottedHost.Clean := by decide
  have hne : shopHost ≠ dottedHost := by decide
  refine ⟨_, rfl, (removeHost_other_host_iff hclean hclean' hne oneLine_samples.2.1
    (bareSections_free _ _) rfl).mpr ?_⟩
  decide +kernel

/-- Different hosts are not enough: they may share a tag, one tag may be the other with an ending
behind it, and a plan may quote a marker. -/
theorem removeHost_disturbs_other_hosts :
    (dashedHost ≠ dottedHost ∧ Disturbed .fullHost dashedHost dottedHost twoServices bareSections) ∧
    (shopHost ≠ longerHost ∧ Disturbed .fullHost shopHost longerHost oneService bareSections) ∧
    (longerHost ≠ shopHost ∧ Disturbed .fullHost longerHost shopHost twoServices bareSections) ∧
    shopHost ≠ blogHost ∧ Disturbed .fullHost shopHost blogHost quotingPlan bareSections := by
  obtain ⟨htwo, hone, hquoting⟩ := oneLine_samples
  refine ⟨⟨by decide, ?_⟩, ⟨by decide, ?_⟩, ⟨by decide, ?_⟩, by decide, ?_⟩
  · exact .of_inserted (by decide) htwo (bareSections_free _ _) rfl
      (.inl (by decide))
  · exact .of_inserted (by decide) hone (bareSections_free _ _) rfl
      (.inr (.inl (by decide)))
  · exact .of_inserted (by decide) htwo (bareSections_free _ _) rfl
      (.inr (.inl (by decide)))
  · exact .of_inserted (by decide) hquoting (bareSections_free _ _) rfl
      (.inr (.inr (by decide)))

end Document
end
end HostRouting
