import HostRouting.Proofs.Document.Siblings
import HostRouting.Proofs.Document.Visible
import HostRouting.Text.Utf8

/-!
# What a removal drops

A scan goes through a document once and remembers where it stands. What it drops can be said
without it. A line that opens a block of the host reaches down to the next visible line that is no
deeper than the members of the section around it, and the depth of these members is read off the
last header above that opens no block itself. Such a header is never deeper than a member, so
no block reaches beyond one, and the depth is the same at the opening line and at every line that
it reaches. With that a scan stands in a block exactly where some line reaches, one line after
the other.
-/
namespace HostRouting
open Text ScanState

/-- A line that opens a section: at most two deep, no comment, longer than one byte, and with a
colon at its end. -/
structure OpensSection (line : Text) : Prop where
  shallow : indentOf line ≤ 2
  code : ¬ ['#'] <+: trim line
  long : 1 < (utf8Bytes (trim line)).length
  colon : [':'] <:+ trim line

/-- A text that ends in one byte is longer than it exactly when something stands before it. -/
theorem Text.one_lt_length_utf8Bytes_iff {t : Text} (h : [':'] <:+ t) :
    1 < (utf8Bytes t).length ↔ 1 < t.length := by
  obtain ⟨front, rfl⟩ := h
  have hbyte : utf8Bytes [':'] = [0x3A] := rfl
  rw [utf8Bytes_append, hbyte, List.length_append, List.length_append]
  simp only [List.length_singleton, Nat.lt_add_left_iff_pos, List.length_pos_iff, ne_eq,
    utf8Bytes_eq_nil_iff]

/-- A scan enters a section at the lines that open one. -/
theorem isHeaderLine_iff {line : Text} : isHeaderLine line = true ↔ OpensSection line := by
  have hcode : ((trim line).head? != some '#') = true ↔ ¬ ['#'] <+: trim line := by
    rw [bne_iff_ne, ne_eq, List.head?_eq_some_iff]
    exact not_congr (exists_congr fun rest => eq_comm)
  have hcolon : ((trim line).getLast? == some ':') = true ↔ [':'] <:+ trim line := by
    rw [beq_iff_eq, List.getLast?_eq_some_iff]
    exact exists_congr fun front => eq_comm
  simp only [isHeaderLine, Bool.and_eq_true, decide_eq_true_eq, hcode, hcolon]
  constructor
  · intro h
    obtain ⟨⟨⟨hshallow, hcode⟩, hlong⟩, hcolon⟩ := h
    exact ⟨hshallow, hcode, (one_lt_length_utf8Bytes_iff hcolon).mpr hlong, hcolon⟩
  · intro h
    exact ⟨⟨⟨h.shallow, h.code⟩, (one_lt_length_utf8Bytes_iff h.colon).mp h.long⟩, h.colon⟩

instance : DecidablePred OpensSection := fun _ => decidable_of_iff _ isHeaderLine_iff

variable {policy : MatchPolicy} {e : Entity} {line : Text} {d : Document} {level i j : Nat}

/-- The line does not end a block whose neighbours are members at the given depth. -/
def Continues (policy : MatchPolicy) (e : Entity) (level : Nat) (line : Text) : Prop :=
  policy.startsBlock e line = true ∨ isBlank line = true ∨ level < indentOf line

instance : Decidable (Continues policy e level line) :=
  inferInstanceAs (Decidable (_ ∨ _ ∨ _))

namespace Document

/-- The lines above line `i` that open a section, but no block of the host. -/
def headersAbove (d : Document) (policy : MatchPolicy) (e : Entity) (i : Nat) : List Text :=
  (d.lines.take i).filter fun l => OpensSection l ∧ policy.startsBlock e l = false

/-- The depth of the members around line `i`: two more than that of the last header above it, and
four where there is none. -/
def memberLevel (d : Document) (policy : MatchPolicy) (e : Entity) (i : Nat) : Nat :=
  match (d.headersAbove policy e i).getLast? with
  | some header => indentOf header + 2
  | none => 4

/-- Line `i` opens a block of the host, and no line behind it up to line `j` ends that block. -/
structure Reaches (d : Document) (policy : MatchPolicy) (e : Entity) (i j : Nat) : Prop where
  le : i ≤ j
  opens : ∃ opening ∈ d.lines[i]?, policy.startsBlock e opening = true
  goes_on : ∀ k, i < k → k ≤ j → ∀ l ∈ d.lines[k]?, Continues policy e (d.memberLevel policy e i) l

instance : Decidable (d.Reaches policy e i j) :=
  decidable_of_iff
    (i ≤ j ∧ (∃ opening ∈ d.lines[i]?, policy.startsBlock e opening = true) ∧
      ∀ k < j + 1, i < k → ∀ l ∈ d.lines[k]?, Continues policy e (d.memberLevel policy e i) l)
    ⟨fun h => ⟨h.1, h.2.1, fun k hk hkj => h.2.2 k (Nat.lt_succ_of_le hkj) hk⟩,
      fun h => ⟨h.le, h.opens, fun k hkj hk => h.goes_on k hk (Nat.le_of_lt_succ hkj)⟩⟩

/-- Some line at or above line `j` reaches it. -/
def Dropped (d : Document) (policy : MatchPolicy) (e : Entity) (j : Nat) : Prop :=
  ∃ i, d.Reaches policy e i j

instance : DecidablePred (d.Dropped policy e) := fun j =>
  decidable_of_iff (∃ i < j + 1, d.Reaches policy e i j)
    ⟨fun ⟨i, _, h⟩ => ⟨i, h⟩, fun ⟨i, h⟩ => ⟨i, Nat.lt_succ_of_le h.le, h⟩⟩

/-- The document without the lines of the given numbers. -/
def without (d : Document) (dropped : Nat → Prop) [DecidablePred dropped] : Document :=
  ⟨(d.lines.zipIdx.filter fun numbered => ¬ dropped numbered.2).map Prod.fst⟩

theorem headersAbove_succ (d : Document) (policy : MatchPolicy) (e : Entity) (i : Nat) :
    d.headersAbove policy e (i + 1) = d.headersAbove policy e i ++
      d.lines[i]?.toList.filter fun l => OpensSection l ∧ policy.startsBlock e l = false := by
  rw [headersAbove, List.take_add_one, List.filter_append, headersAbove]

theorem memberLevel_succ_of_header (hl : d.lines[i]? = some line) (ho : OpensSection line)
    (hf : policy.startsBlock e line = false) :
    d.memberLevel policy e (i + 1) = indentOf line + 2 := by
  rw [memberLevel, headersAbove_succ, hl]
  simp [ho, hf]

theorem memberLevel_succ_of_free
    (h : ∀ l ∈ d.lines[i]?, OpensSection l → policy.startsBlock e l = true) :
    d.memberLevel policy e (i + 1) = d.memberLevel policy e i := by
  have hnone : (d.lines[i]?.toList.filter fun l =>
      OpensSection l ∧ policy.startsBlock e l = false) = [] := by
    rw [List.filter_eq_nil_iff]
    intro l hl
    simp only [decide_eq_true_eq, not_and, Bool.not_eq_false]
    exact h l (Option.mem_toList.mp hl)
  rw [memberLevel, headersAbove_succ, hnone, List.append_nil, memberLevel]

theorem two_le_memberLevel (d : Document) (policy : MatchPolicy) (e : Entity) (i : Nat) :
    2 ≤ d.memberLevel policy e i := by
  unfold memberLevel
  cases (d.headersAbove policy e i).getLast? with
  | none => decide
  | some header => exact Nat.le_add_left 2 _

end Document

/-- No line inside a block opens a section without opening a block. -/
theorem Continues.startsBlock_of_opensSection (h : Continues policy e level line)
    (hlevel : 2 ≤ level) (ho : OpensSection line) : policy.startsBlock e line = true := by
  rcases h with hstart | hblank | hdeep
  · exact hstart
  · have hnil : trim line = [] := (trim_eq_nil_iff line).mpr hblank
    have hcolon := ho.colon
    rw [hnil, List.suffix_nil] at hcolon
    cases hcolon
  · exact absurd (hlevel.trans hdeep.le) (by have := ho.shallow; omega)

namespace Document

theorem memberLevel_succ_of_continues
    (h : ∀ l ∈ d.lines[i]?, Continues policy e level l) (hlevel : 2 ≤ level) :
    d.memberLevel policy e (i + 1) = d.memberLevel policy e i :=
  memberLevel_succ_of_free fun l hl => (h l hl).startsBlock_of_opensSection hlevel

/-- The depth of members is the same at a line that opens a block and behind all that it
reaches. -/
theorem Reaches.memberLevel_succ (h : d.Reaches policy e i j) :
    d.memberLevel policy e (j + 1) = d.memberLevel policy e i := by
  obtain ⟨hle, ⟨opening, ho, hstart⟩, hgoes⟩ := h
  induction j, hle using Nat.le_induction with
  | base =>
      refine memberLevel_succ_of_free fun l hl _ => ?_
      rwa [Option.mem_unique hl ho]
  | succ j hle ih =>
      rw [memberLevel_succ_of_continues (hgoes (j + 1) (Nat.lt_succ_of_le hle) le_rfl)
        (two_le_memberLevel d policy e i)]
      exact ih fun k hk hkj => hgoes k hk (hkj.trans j.le_succ)

/-- The line above line `i` is dropped. -/
def DroppedAbove (d : Document) (policy : MatchPolicy) (e : Entity) (i : Nat) : Prop :=
  ∃ k, k + 1 = i ∧ d.Dropped policy e k

/-- A line is dropped if it opens a block, or if the line above is dropped and it does not end the
block that goes on there. -/
theorem dropped_iff (hl : d.lines[i]? = some line) :
    d.Dropped policy e i ↔ policy.startsBlock e line = true ∨
      d.DroppedAbove policy e i ∧ Continues policy e (d.memberLevel policy e i) line := by
  constructor
  · intro hdropped
    obtain ⟨k, hle, hopens, hgoes⟩ := hdropped
    rcases hle.eq_or_lt with rfl | hlt
    · obtain ⟨opening, ho, hstart⟩ := hopens
      exact .inl (Option.mem_unique hl ho ▸ hstart)
    · obtain ⟨j, rfl⟩ : ∃ j, j + 1 = i := ⟨i - 1, by omega⟩
      have habove : d.Reaches policy e k j :=
        ⟨Nat.le_of_lt_succ hlt, hopens, fun m hm hmj => hgoes m hm (hmj.trans j.le_succ)⟩
      refine .inr ⟨⟨j, rfl, k, habove⟩, ?_⟩
      rw [habove.memberLevel_succ]
      exact hgoes (j + 1) hlt le_rfl line hl
  · intro hline
    rcases hline with hstart | ⟨⟨j, rfl, k, habove⟩, hcontinues⟩
    · exact ⟨i, le_rfl, ⟨line, hl, hstart⟩, fun m hm hmi => absurd hm (by omega)⟩
    · rw [habove.memberLevel_succ] at hcontinues
      refine ⟨k, habove.le.trans j.le_succ, habove.opens, fun m hm hmj l hml => ?_⟩
      rcases hmj.lt_or_eq with hlt | rfl
      · exact habove.goes_on m hm (Nat.le_of_lt_succ hlt) l hml
      · exact Option.mem_unique hl hml ▸ hcontinues

end Document

/-- The scan stands in a block that was opened in the section of `s` if it is covered, and in that
section if it is not. -/
structure ScanState.Stands (policy : MatchPolicy) (e : Entity) (s : ScanState) (covered : Prop)
    (state : ScanState) : Prop where
  regular : Regular s
  inside : covered → state = s.blocked policy e
  outside : ¬ covered → state = s

namespace ScanState.Stands

variable {s state : ScanState} {covered : Prop}

theorem within (h : Stands policy e s covered state) : Within policy e s state :=
  ⟨h.regular, (em covered).elim (fun hc => .inr (h.inside hc)) fun hc => .inl (h.outside hc)⟩

/-- A line that is covered is dropped, and the scan stays where it is. -/
theorem step_covered (h : Stands policy e s covered state)
    (hl : policy.startsBlock e line = true ∨ covered ∧ Continues policy e s.memberIndent line) :
    state.step policy e line = (s.blocked policy e, false) := by
  cases hstart : policy.startsBlock e line with
  | true => exact h.within.step_start hstart
  | false =>
      obtain ⟨hcovered, hcontinues⟩ := hl.resolve_left (by simp [hstart])
      rw [h.inside hcovered]
      exact step_blocked_deep hstart (hcontinues.resolve_left (by simp [hstart]))

/-- Any other line is kept and read in the section. -/
theorem step_uncovered (h : Stands policy e s covered state)
    (hl : ¬ (policy.startsBlock e line = true ∨
      covered ∧ Continues policy e s.memberIndent line)) :
    state.step policy e line = (s.enter line, true) := by
  obtain ⟨hstart, hends⟩ := not_or.mp hl
  have hfree : policy.startsBlock e line = false := Bool.not_eq_true _ ▸ hstart
  by_cases hcovered : covered
  · refine h.within.step_shallow hfree ?_
    have hcontinues : ¬ Continues policy e s.memberIndent line := fun hc => hends ⟨hcovered, hc⟩
    simp only [Continues, not_or, Bool.not_eq_true, not_lt] at hcontinues
    simp [isShallow, hcontinues.2.1, hcontinues.2.2]
  · rw [h.outside hcovered]
    exact step_free h.regular.settled hfree

end ScanState.Stands

namespace Document

/-- A scan stands in a block in front of a line exactly where the line above is dropped, and at the
depth of the members around the line. -/
theorem exists_stands (d : Document) (policy : MatchPolicy) (e : Entity) (i : Nat)
    (hi : i ≤ d.lines.length) : ∃ s, Stands policy e s (d.DroppedAbove policy e i)
      (d.scanAt policy e i) ∧ s.memberIndent = d.memberLevel policy e i := by
  induction i with
  | zero =>
      have htop : ¬ d.DroppedAbove policy e 0 := fun ⟨_, h, _⟩ => Nat.succ_ne_zero _ h
      exact ⟨.outside, ⟨regular_outside, fun h => absurd h htop, fun _ => rfl⟩, rfl⟩
  | succ i ih =>
      obtain ⟨s, hs, hlevel⟩ := ih (Nat.le_of_succ_le hi)
      obtain ⟨line, hl⟩ : ∃ line, d.lines[i]? = some line := ⟨_, List.getElem?_eq_getElem hi⟩
      have habove : d.DroppedAbove policy e (i + 1) ↔ d.Dropped policy e i :=
        ⟨fun ⟨_, hk, h⟩ => Nat.succ.inj hk ▸ h, fun h => ⟨i, rfl, h⟩⟩
      have hline : d.Dropped policy e i ↔ _ := dropped_iff hl
      rw [← hlevel] at hline
      rw [scanAt_succ hl, habove]
      by_cases hdropped : d.Dropped policy e i
      · rw [hs.step_covered (hline.mp hdropped)]
        refine ⟨s, ⟨hs.regular, fun _ => rfl, fun h => absurd hdropped h⟩, ?_⟩
        have hcontinues : ∀ l ∈ d.lines[i]?, Continues policy e s.memberIndent l := by
          intro l hl'
          rw [← Option.mem_unique hl hl']
          exact (hline.mp hdropped).elim .inl And.right
        rw [memberLevel_succ_of_continues hcontinues hs.regular.lower, hlevel]
      · rw [hs.step_uncovered (fun h => hdropped (hline.mpr h))]
        refine ⟨s.enter line, ⟨hs.regular.enter line, fun h => absurd h hdropped, fun _ => rfl⟩, ?_⟩
        have hfree : policy.startsBlock e line = false := by
          rw [Bool.eq_false_iff]
          exact fun hstart => hdropped (hline.mpr (.inl hstart))
        cases hheader : isHeaderLine line with
        | true =>
            rw [memberIndent_enter hheader,
              memberLevel_succ_of_header hl (isHeaderLine_iff.mp hheader) hfree]
            rfl
        | false =>
            rw [enter_of_not_header hheader, hlevel, memberLevel_succ_of_free]
            intro l hl' hopens
            obtain rfl : line = l := Option.mem_unique hl hl'
            rw [isHeaderLine_iff.mpr hopens] at hheader
            cases hheader

theorem keeps_iff (hi : i < d.lines.length) :
    d.keeps policy e i = true ↔ ¬ d.Dropped policy e i := by
  obtain ⟨line, hl⟩ : ∃ line, d.lines[i]? = some line := ⟨_, List.getElem?_eq_getElem hi⟩
  obtain ⟨s, hs, hlevel⟩ := d.exists_stands policy e i hi.le
  have hkeeps : d.keeps policy e i = ((d.scanAt policy e i).step policy e line).2 := by
    simp [keeps, hl]
  have hline : d.Dropped policy e i ↔ _ := dropped_iff hl
  rw [← hlevel] at hline
  rw [hkeeps]
  by_cases hdropped : d.Dropped policy e i
  · rw [hs.step_covered (hline.mp hdropped)]
    simp [hdropped]
  · rw [hs.step_uncovered fun h => hdropped (hline.mpr h)]
    simp [hdropped]

theorem weaveFrom_eq_filter (keep : Nat → Bool) (i : Nat) (lines : List Text) :
    weaveFrom (fun _ => []) keep i lines =
      ((lines.zipIdx i).filter fun numbered => keep numbered.2).map Prod.fst := by
  induction lines generalizing i with
  | nil => rfl
  | cons line rest ih =>
      rw [weaveFrom, ih, List.zipIdx_cons, List.filter_cons]
      cases keep i <;> rfl

/-- A removal leaves the lines that are not dropped. -/
theorem removeHost_eq_without (policy : MatchPolicy) (e : Entity) (d : Document) :
    d.removeHost policy e = (d.without (d.Dropped policy e)).trimBlankEdges := by
  have hkept : (d.lines.zipIdx.filter fun numbered => d.keeps policy e numbered.2) =
      d.lines.zipIdx.filter fun numbered => ¬ d.Dropped policy e numbered.2 := by
    refine List.filter_congr fun numbered hnumbered => ?_
    have hlt : numbered.2 < d.lines.length := by
      have := List.snd_lt_of_mem_zipIdx hnumbered
      omega
    rw [Bool.eq_iff_iff, keeps_iff hlt, decide_eq_true_iff]
  rw [removeHost_eq_weave, weave, List.append_nil, weaveFrom_eq_filter, hkept, without]

variable {p : Text → Bool}

/-- Lines of a kind that is never dropped are all left. -/
theorem filter_without {dropped : Nat → Prop} [DecidablePred dropped]
    (h : ∀ i, ∀ l ∈ d.lines[i]?, p l = true → ¬ dropped i) :
    (d.without dropped).lines.filter p = d.lines.filter p := by
  have hkept : (d.lines.zipIdx.filter fun numbered => ¬ dropped numbered.2).filter (p ∘ Prod.fst) =
      d.lines.zipIdx.filter (p ∘ Prod.fst) := by
    rw [List.filter_filter]
    refine List.filter_congr fun numbered hnumbered => ?_
    have hl : numbered.1 ∈ d.lines[numbered.2]? := by
      rw [List.mk_mem_zipIdx_iff_getElem?] at hnumbered
      exact hnumbered
    cases hp : p numbered.1 with
    | false => simp [hp]
    | true => simp [hp, h numbered.2 numbered.1 hl hp]
  rw [without, List.filter_map, hkept, ← List.filter_map, List.zipIdx_map_fst]

theorem filter_trimBlankEdges (d : Document) (h : ∀ l, p l = true → isBlank l = false) :
    d.trimBlankEdges.lines.filter p = d.lines.filter p := by
  have hvisible : ∀ lines : List Text, (visible lines).filter p = lines.filter p := by
    intro lines
    rw [visible, List.filter_filter]
    refine List.filter_congr fun l _ => ?_
    cases hp : p l with
    | false => rfl
    | true => simp [h l hp]
  rw [← hvisible, visible_trimBlankEdges, hvisible]

theorem Dropped.startsBlock_or (h : d.Dropped policy e i) (hl : d.lines[i]? = some line) :
    policy.startsBlock e line = true ∨ isShallow 2 line = false := by
  rcases (dropped_iff hl).mp h with hstart | ⟨-, hstart | hblank | hdeep⟩
  · exact .inl hstart
  · exact .inl hstart
  · exact .inr (by simp [isShallow, hblank])
  · have hlevel := d.two_le_memberLevel policy e i
    exact .inr (isShallow_eq_false_iff.mpr (.inr (by omega)))

/-- A removal drops exactly the lines that a line which opens a block of the host reaches, and then
the blank edges. The visible lines at most two deep that open no block are all left. -/
theorem removeHost_drops_reach (policy : MatchPolicy) (e : Entity) (d : Document) :
    d.removeHost policy e = (d.without (d.Dropped policy e)).trimBlankEdges ∧
      (d.removeHost policy e).lines.filter (fun l => isShallow 2 l && !policy.startsBlock e l) =
        d.lines.filter fun l => isShallow 2 l && !policy.startsBlock e l := by
  refine ⟨removeHost_eq_without policy e d, ?_⟩
  rw [removeHost_eq_without, filter_trimBlankEdges, filter_without]
  · intro i l hl hp hdropped
    simp only [Bool.and_eq_true, Bool.not_eq_true'] at hp
    rcases hdropped.startsBlock_or hl with hstart | hdeep
    · rw [hp.2] at hstart
      cases hstart
    · rw [hp.1] at hdeep
      cases hdeep
  · intro l hp
    simp only [Bool.and_eq_true] at hp
    exact visible_of_isShallow hp.1

end Document
end HostRouting
