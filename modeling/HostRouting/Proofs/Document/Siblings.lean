import HostRouting.Proofs.Document.Scan
import HostRouting.Proofs.Document.Sections
import HostRouting.Proofs.Document.Weaving

/-!
# What a removal leaves beside a block

A scan stands in a section or in a block that was opened in it, and below a nested header this
section does not change. Its members are as deep as the header says if the scan takes the
header line for one, which it does by a colon at the end of the line. A header with something
behind its colon opens a section for an insertion but not for a scan, which then goes on at
the depth that it had, and at that depth a block reaches beyond its neighbours.
-/
namespace HostRouting
open Text ScanState

variable {policy : MatchPolicy} {e : Entity} {s state : ScanState} {line : Text} {d : Document}
  {n i : Nat}

namespace ScanState

/-- The scan stands in the section of `s`, or in a block that was opened there. -/
structure Within (policy : MatchPolicy) (e : Entity) (s state : ScanState) : Prop where
  regular : Regular s
  here : state = s ∨ state = s.blocked policy e

namespace Within

theorem step_start (h : Within policy e s state) (hl : policy.startsBlock e line = true) :
    state.step policy e line = (s.blocked policy e, false) := by
  rcases h.here with rfl | rfl <;> exact ScanState.step_start hl

/-- A visible line that is no deeper than a member is read in the section, block or not. -/
theorem step_shallow (h : Within policy e s state) (hf : policy.startsBlock e line = false)
    (hl : isShallow s.memberIndent line = true) :
    state.step policy e line = (s.enter line, true) := by
  rcases h.here with rfl | rfl
  · exact step_free h.regular.settled hf
  · exact step_blocked_stop h.regular.settled hf hl

theorem exists_step (h : Within policy e s state) (line : Text) :
    ∃ s', Within policy e s' (state.step policy e line).1 := by
  cases hl : policy.startsBlock e line with
  | true =>
      rw [h.step_start hl]
      exact ⟨s, h.regular, .inr rfl⟩
  | false =>
      cases hd : isShallow s.memberIndent line with
      | true =>
          rw [h.step_shallow hl hd]
          exact ⟨s.enter line, h.regular.enter line, .inl rfl⟩
      | false =>
          rcases h.here with rfl | rfl
          · rw [step_free h.regular.settled hl]
            exact ⟨_, h.regular.enter line, .inl rfl⟩
          · rw [step_blocked_deep hl (isShallow_eq_false_iff.mp hd)]
            exact ⟨s, h.regular, .inr rfl⟩

end Within

/-- The header line itself fixes the depth of its members. -/
theorem memberIndent_enter (h : isHeaderLine line = true) :
    (state.enter line).memberIndent = indentOf line + nestWidth := by
  simp [ScanState.enter, h, memberIndent]

end ScanState

namespace Document

/-- The state of a scan in front of line `i`. -/
def scanAt (d : Document) (policy : MatchPolicy) (e : Entity) (i : Nat) : ScanState :=
  (d.lines.take i).foldl (fun state line => (state.step policy e line).1) .outside

/-- A removal keeps line `i`. -/
def keeps (d : Document) (policy : MatchPolicy) (e : Entity) (i : Nat) : Bool :=
  d.lines[i]?.all fun line => ((d.scanAt policy e i).step policy e line).2

theorem scanAt_succ (h : d.lines[i]? = some line) :
    d.scanAt policy e (i + 1) = ((d.scanAt policy e i).step policy e line).1 := by
  rw [scanAt, List.take_add_one, h, List.foldl_append]
  rfl

theorem keptLines_drop (i : Nat) (rest : List Text) (h : d.lines.drop i = rest) :
    keptLines policy e (d.scanAt policy e i) rest =
      weaveFrom (fun _ => []) (d.keeps policy e) i rest := by
  induction rest generalizing i with
  | nil => rfl
  | cons line more ih =>
      have hline : d.lines[i]? = some line := by
        rw [← List.head?_drop, h, List.head?_cons]
      have hmore : d.lines.drop (i + 1) = more := by
        rw [← List.tail_drop, h, List.tail_cons]
      have hkeeps : d.keeps policy e i = ((d.scanAt policy e i).step policy e line).2 := by
        simp [keeps, hline]
      rw [weaveFrom, ← ih (i + 1) hmore, scanAt_succ hline, keptLines, hkeeps]
      cases ((d.scanAt policy e i).step policy e line).2 <;> rfl

/-- A removal leaves the lines that it keeps, in their order and up to blank edges. -/
theorem removeHost_eq_weave (policy : MatchPolicy) (e : Entity) (d : Document) :
    d.removeHost policy e =
      trimBlankEdges ⟨weave (fun _ => []) (d.keeps policy e) d.lines⟩ := by
  have hkept : keptLines policy e .outside d.lines =
      weaveFrom (fun _ => []) (d.keeps policy e) 0 d.lines := keptLines_drop 0 d.lines rfl
  rw [removeHost, hkept, weave, List.append_nil]

theorem exists_within (d : Document) (policy : MatchPolicy) (e : Entity) (i : Nat) :
    ∃ s, Within policy e s (d.scanAt policy e i) := by
  induction i with
  | zero => exact ⟨.outside, regular_outside, .inl rfl⟩
  | succ i ih =>
      obtain ⟨s, hs⟩ := ih
      cases hl : d.lines[i]? with
      | none =>
          have hsame : d.scanAt policy e (i + 1) = d.scanAt policy e i := by
            rw [scanAt, List.take_add_one, hl]
            simp [scanAt]
          rw [hsame]
          exact ⟨s, hs⟩
      | some line =>
          rw [scanAt_succ hl]
          exact hs.exists_step line

/-- The depth of members by which a scan goes on below line `n`. -/
def memberDepth (d : Document) (policy : MatchPolicy) (e : Entity) (n : Nat) : Nat :=
  (d.scanAt policy e (n + 1)).memberIndent

/-- A block of the host that opens below line `n` is not closed in front of line `i` by a visible
line as deep as a member. -/
def BlockReaches (d : Document) (policy : MatchPolicy) (e : Entity) (n i : Nat) : Prop :=
  ∃ j opening, n < j ∧ j < i ∧ d.lines[j]? = some opening ∧
    policy.startsBlock e opening = true ∧ ∀ k l, j < k → k < i → d.lines[k]? = some l →
      isShallow (d.memberDepth policy e n) l = true → policy.startsBlock e l = true

theorem not_blockReaches_succ : ¬ d.BlockReaches policy e n (n + 1) := by
  intro hr
  obtain ⟨j, -, hj, hlt, -⟩ := hr
  omega

theorem blockReaches_succ_iff (hi : n < i) (hl : d.lines[i]? = some line) :
    d.BlockReaches policy e n (i + 1) ↔ policy.startsBlock e line = true ∨
      d.BlockReaches policy e n i ∧ isShallow (d.memberDepth policy e n) line = false := by
  constructor
  · intro hr
    obtain ⟨j, opening, hj, hlt, ho, hs, hbetween⟩ := hr
    rw [or_iff_not_imp_left]
    intro hfree
    have hji : j < i := by
      refine lt_of_le_of_ne (Nat.lt_succ_iff.mp hlt) ?_
      rintro rfl
      exact hfree (Option.some.inj (ho.symm.trans hl) ▸ hs)
    refine ⟨⟨j, opening, hj, hji, ho, hs, fun k l hk hki => ?_⟩, ?_⟩
    · exact hbetween k l hk (hki.trans i.lt_succ_self)
    · rw [Bool.eq_false_iff]
      exact fun hd => hfree (hbetween i line hji i.lt_succ_self hl hd)
  · intro hr
    rcases hr with hs | ⟨⟨j, opening, hj, hlt, ho, hs, hbetween⟩, hd⟩
    · exact ⟨i, line, hi, i.lt_succ_self, hl, hs, fun k _ hk hki => absurd hki (by omega)⟩
    · refine ⟨j, opening, hj, hlt.trans i.lt_succ_self, ho, hs, fun k l hk hki hkl hshallow => ?_⟩
      rcases Nat.lt_succ_iff_lt_or_eq.mp hki with hki | rfl
      · exact hbetween k l hk hki hkl hshallow
      · rw [Option.some.inj (hkl.symm.trans hl), hd] at hshallow
        cases hshallow

/-- Line `i` is a member in the section of the header on line `n`, and neither of the two opens a
block of the host. -/
structure Sibling (d : Document) (policy : MatchPolicy) (e : Entity) (h : SectionHeader)
    (n i : Nat) : Prop where
  header : ∃ l, d.lines[n]? = some l ∧ h.isOn l = true ∧ policy.startsBlock e l = false
  within : d.InSection n i
  member : ∃ l, d.lines[i]? = some l ∧ indentOf l = h.memberIndent ∧ isBlank l = false ∧
    policy.startsBlock e l = false

section
variable {h : SectionHeader} (hh : h.indent = nestWidth)
include hh

/-- A nested header that opens no block is read in the section around it. -/
theorem exists_enter_header {header : Text} (hn : d.lines[n]? = some header)
    (hon : h.isOn header = true) (hf : policy.startsBlock e header = false) :
    ∃ s, Regular s ∧ d.scanAt policy e (n + 1) = s.enter header := by
  obtain ⟨s, hs⟩ := d.exists_within policy e n
  have hindent : h.indent ≤ s.memberIndent := by
    rw [hh]
    exact hs.regular.lower
  refine ⟨s, hs.regular, ?_⟩
  rw [scanAt_succ hn, hs.step_shallow hf (SectionHeader.isShallow_of_isOn hindent hon)]

/-- Within the section of a nested header the scan stands in a block exactly when one reaches the
line, and otherwise where it stood below the header. -/
theorem scanAt_inSection (hat : d.HeaderAt h n) (hs : Regular (d.scanAt policy e (n + 1)))
    (hi : n < i) (hle : i ≤ d.sectionEnd n) :
    (d.BlockReaches policy e n i →
      d.scanAt policy e i = (d.scanAt policy e (n + 1)).blocked policy e) ∧
    (¬ d.BlockReaches policy e n i → d.scanAt policy e i = d.scanAt policy e (n + 1)) := by
  induction i, hi using Nat.le_induction with
  | base => exact ⟨fun hr => absurd hr not_blockReaches_succ, fun _ => rfl⟩
  | succ i hi ih =>
      obtain ⟨ihin, ihout⟩ := ih (Nat.le_of_succ_le hle)
      have hend := sectionEnd_firstFrom hat
      obtain ⟨line, hl⟩ := hend.exists_line hle
      have hdeep : isShallow 2 line = false := by
        have := hend.before i line hi hle hl
        rwa [hh] at this
      have henter : (d.scanAt policy e (n + 1)).enter line = d.scanAt policy e (n + 1) :=
        enter_of_not_header (isHeaderLine_of_not_isShallow hdeep)
      rw [blockReaches_succ_iff hi hl, scanAt_succ hl]
      cases hstart : policy.startsBlock e line with
      | true =>
          refine ⟨fun _ => ?_, by simp⟩
          have hwithin : Within policy e (d.scanAt policy e (n + 1)) (d.scanAt policy e i) :=
            ⟨hs, (em _).elim (fun hr => .inr (ihin hr)) fun hr => .inl (ihout hr)⟩
          rw [hwithin.step_start hstart]
      | false =>
          simp only [Bool.false_eq_true, false_or]
          by_cases hr : d.BlockReaches policy e n i
          · rw [ihin hr]
            cases hd : isShallow (d.memberDepth policy e n) line with
            | true => simp [hr, step_blocked_stop hs.settled hstart hd, henter]
            | false =>
                simp [hr, step_blocked_deep hstart (isShallow_eq_false_iff.mp hd)]
          · rw [ihout hr, step_free hs.settled hstart]
            simp [hr, henter]

/-- A scan that takes the header line for a header goes on at the depth of its members. -/
theorem Sibling.memberDepth_of_header (hs : d.Sibling policy e h n i)
    (hheader : ∀ l, d.lines[n]? = some l → isHeaderLine l = true) :
    d.memberDepth policy e n = h.memberIndent := by
  obtain ⟨header, hn, hon, hf⟩ := hs.header
  obtain ⟨s, -, hscan⟩ := exists_enter_header hh hn hon hf
  rw [memberDepth, hscan, memberIndent_enter (hheader header hn),
    SectionHeader.indentOf_of_isOn hon]
  rfl

/-- A sibling of the host's blocks is kept exactly when the scan goes on below the header at the
depth of the header's members or no block reaches the sibling. -/
theorem Sibling.keeps_iff (hs : d.Sibling policy e h n i) : d.keeps policy e i = true ↔
    d.memberDepth policy e n = h.memberIndent ∨ ¬ d.BlockReaches policy e n i := by
  obtain ⟨header, hn, hon, hf⟩ := hs.header
  obtain ⟨sibling, hl, hindent, hb, hfree⟩ := hs.member
  have hregular : Regular (d.scanAt policy e (n + 1)) := by
    obtain ⟨s, hs, hscan⟩ := exists_enter_header hh hn hon hf
    rw [hscan]
    exact hs.enter header
  obtain ⟨hreached, hunreached⟩ :=
    scanAt_inSection hh ⟨header, hn, hon⟩ hregular hs.within.below hs.within.above_end.le
  have hkeeps : d.keeps policy e i = ((d.scanAt policy e i).step policy e sibling).2 := by
    simp [keeps, hl]
  rw [hkeeps]
  by_cases hr : d.BlockReaches policy e n i
  · have hfour : h.memberIndent = 4 := by
      rw [SectionHeader.memberIndent, hh]
      rfl
    have hupper : d.memberDepth policy e n ≤ 4 := hregular.upper
    have hdepth : isShallow (d.memberDepth policy e n) sibling = true ↔
        d.memberDepth policy e n = h.memberIndent := by
      simp only [isShallow, hb, hindent, hfour, Bool.not_false, Bool.true_and, decide_eq_true_eq]
      omega
    rw [hreached hr, ← hdepth]
    cases hd : isShallow (d.memberDepth policy e n) sibling with
    | true => simp [step_blocked_stop hregular.settled hfree hd]
    | false => simp [step_blocked_deep hfree (isShallow_eq_false_iff.mp hd), hr]
  · rw [hunreached hr, step_free hregular.settled hfree]
    simp [hr]

/-- A removal leaves the lines that it keeps, in their order and up to blank edges. Siblings of the
host's blocks are among them whenever the scan takes the header line for a header. Under another
header they are as long as no block reaches them, or the depth happens to be the same. -/
theorem removeHost_keeps_siblings (hs : d.Sibling policy e h n i) :
    d.removeHost policy e = trimBlankEdges ⟨weave (fun _ => []) (d.keeps policy e) d.lines⟩ ∧
      ((∀ l, d.lines[n]? = some l → isHeaderLine l = true) → d.keeps policy e i = true) ∧
      (d.keeps policy e i = true ↔
        d.memberDepth policy e n = h.memberIndent ∨ ¬ d.BlockReaches policy e n i) :=
  ⟨removeHost_eq_weave policy e d,
    fun hheader => (hs.keeps_iff hh).mpr (.inl (hs.memberDepth_of_header hh hheader)),
    hs.keeps_iff hh⟩

end

/-- Routers of two hosts under a header line. -/
def twoRouters (header : String) : Document :=
  ⟨["http:", header, "    shop-router:", "      rule: x", "    blog-router:",
    "      rule: y"].map String.toList⟩

theorem removeHost_keeps_siblings_sample :
    (twoRouters "  routers:").keeps .firstLabel shopHost 4 = true := by
  have hs : (twoRouters "  routers:").Sibling .firstLabel shopHost .routers 1 4 := by
    refine ⟨⟨_, rfl, by decide +kernel, by decide +kernel⟩, ⟨by decide, by decide +kernel⟩, _, rfl,
      ?_⟩
    decide +kernel
  refine (removeHost_keeps_siblings rfl hs).2.1 ?_
  intro l hl
  obtain rfl : "  routers:".toList = l := Option.some.inj hl
  decide

/-- With a remark behind the colon of the header the neighbour goes, too. -/
theorem removeHost_takes_sibling :
    (twoRouters "  routers: # all hosts").findHeader? .routers 0 = some 1 ∧
    (twoRouters "  routers: # all hosts").Sibling .firstLabel shopHost .routers 1 4 ∧
    (twoRouters "  routers: # all hosts").keeps .firstLabel shopHost 4 = false ∧
    (twoRouters "  routers: # all hosts").removeHost .firstLabel shopHost =
      ⟨["http:", "  routers: # all hosts"].map String.toList⟩ := by
  refine ⟨by decide +kernel, ⟨⟨_, rfl, by decide +kernel, by decide +kernel⟩,
    ⟨by decide, by decide +kernel⟩, _, rfl, ?_⟩, by decide +kernel, by decide +kernel⟩
  decide +kernel

end Document
end HostRouting
