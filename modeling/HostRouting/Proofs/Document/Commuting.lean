import HostRouting.Proofs.Document.Reach
import HostRouting.Proofs.Document.Separation
import HostRouting.Proofs.Document.Settling

/-!
# Removals of two hosts

A removal takes lines at which the removal of another host would have stopped or gone on. Where no
line that could be a header opens a block of either host this makes no difference. Both scans then
read every header, so they stand in the same section. A scan of what the other one has left may
miss the line that opened its block, or the one that ended it, but only while the other stands in a
block; and a block of the other ends at a visible line no deeper than a member, which is left and at
which every scan of the section goes on alike, whether it stood in a block or not. So two removals
take what each of them takes alone, in either order.
-/
namespace HostRouting
open Text ScanState

variable {policy : MatchPolicy} {e f : Entity} {s state state' first second again : ScanState}
  {line : Text} {d : Document} {i : Nat}

namespace ScanState

theorem isHeaderLine_of_deep (h : Regular s) (hl : isShallow s.memberIndent line = false) :
    isHeaderLine line = false := by
  refine isHeaderLine_of_not_isShallow ?_
  rw [Bool.eq_false_iff] at hl ⊢
  exact fun htwo => hl (isShallow_mono h.lower htwo)

/-- A line that is no header leaves a scan in its section. -/
theorem Within.step_of_not_header (h : Within policy e s state) (hl : isHeaderLine line = false) :
    Within policy e s (state.step policy e line).1 := by
  have hstay : s.enter line = s := enter_of_not_header hl
  cases hstart : policy.startsBlock e line with
  | true =>
      rw [h.step_start hstart]
      exact ⟨h.regular, .inr rfl⟩
  | false =>
      cases hdeep : isShallow s.memberIndent line with
      | true =>
          rw [h.step_shallow hstart hdeep, hstay]
          exact ⟨h.regular, .inl rfl⟩
      | false =>
          rcases h.here with rfl | rfl
          · rw [step_free h.regular.settled hstart, hstay]
            exact ⟨h.regular, .inl rfl⟩
          · rw [step_blocked_deep hstart (isShallow_eq_false_iff.mp hdeep)]
            exact ⟨h.regular, .inr rfl⟩

/-- At a visible line no deeper than a member it does not matter whether a scan is in a block. -/
theorem Within.step_congr (h : Within policy e s state) (h' : Within policy e s state')
    (hl : isShallow s.memberIndent line = true) :
    state.step policy e line = state'.step policy e line := by
  cases hstart : policy.startsBlock e line with
  | true => rw [h.step_start hstart, h'.step_start hstart]
  | false => rw [h.step_shallow hstart hl, h'.step_shallow hstart hl]

/-- Behind such a line a scan stands in the section that the line is in or opens. -/
theorem Within.step_of_shallow (h : Within policy e s state)
    (hstarts : policy.startsBlock e line = true → isHeaderLine line = false)
    (hl : isShallow s.memberIndent line = true) :
    Within policy e (s.enter line) (state.step policy e line).1 := by
  cases hstart : policy.startsBlock e line with
  | true =>
      rw [h.step_start hstart, enter_of_not_header (hstarts hstart)]
      exact ⟨h.regular, .inr rfl⟩
  | false =>
      rw [h.step_shallow hstart hl]
      exact ⟨h.regular.enter line, .inl rfl⟩

/-- Scans for two hosts over the same lines, and the second one over what the first has left. They
stand in one section, and the second stands alike in both, unless the first is in a block. -/
structure Abreast (policy : MatchPolicy) (e f : Entity) (s first second again : ScanState) :
    Prop where
  first_within : Within policy e s first
  second_within : Within policy f s second
  again_within : Within policy f s again
  agree : again = second ∨ first = s.blocked policy e

/-- A line that the first scan drops is not seen again. Any other line is kept by the second scan
exactly if it is kept when seen again. -/
theorem Abreast.step (h : Abreast policy e f s first second again)
    (he : policy.startsBlock e line = true → isHeaderLine line = false)
    (hf : policy.startsBlock f line = true → isHeaderLine line = false) :
    ∃ s', ((first.step policy e line).2 = false → Abreast policy e f s'
        (first.step policy e line).1 (second.step policy f line).1 again) ∧
      ((first.step policy e line).2 = true →
        (again.step policy f line).2 = (second.step policy f line).2 ∧ Abreast policy e f s'
          (first.step policy e line).1 (second.step policy f line).1
          (again.step policy f line).1) := by
  cases hstart : policy.startsBlock e line with
  | true =>
      rw [h.first_within.step_start hstart]
      refine ⟨s, fun _ => ⟨⟨h.first_within.regular, .inr rfl⟩, ?_, h.again_within, .inr rfl⟩, nofun⟩
      exact h.second_within.step_of_not_header (he hstart)
  | false =>
      cases hdeep : isShallow s.memberIndent line with
      | true =>
          rw [h.first_within.step_shallow hstart hdeep,
            h.again_within.step_congr h.second_within hdeep]
          have hfirst : Within policy e (s.enter line) (s.enter line) :=
            ⟨h.first_within.regular.enter line, .inl rfl⟩
          have hsecond := h.second_within.step_of_shallow hf hdeep
          exact ⟨s.enter line, nofun, fun _ => ⟨rfl, hfirst, hsecond, hsecond, .inl rfl⟩⟩
      | false =>
          have hregular : Regular s := h.first_within.regular
          have hheader : isHeaderLine line = false := isHeaderLine_of_deep hregular hdeep
          have hsecond := h.second_within.step_of_not_header hheader
          refine ⟨s, ?_⟩
          by_cases hblocked : first = s.blocked policy e
          · rw [hblocked, step_blocked_deep hstart (isShallow_eq_false_iff.mp hdeep)]
            exact ⟨fun _ => ⟨⟨hregular, .inr rfl⟩, hsecond, h.again_within, .inr rfl⟩, nofun⟩
          · have hs : first = s := h.first_within.here.resolve_right hblocked
            have hagain : again = second := h.agree.resolve_right hblocked
            rw [hs, step_free hregular.settled hstart, enter_of_not_header hheader, hagain]
            exact ⟨nofun, fun _ => ⟨rfl, ⟨hregular, .inl rfl⟩, hsecond, hsecond, .inl rfl⟩⟩

end ScanState

namespace Document

/-- A scan over what another one keeps keeps the lines that both keep. -/
theorem keptLines_keptLines_drop
    (he : ∀ l ∈ d.lines, policy.startsBlock e l = true → isHeaderLine l = false)
    (hf : ∀ l ∈ d.lines, policy.startsBlock f l = true → isHeaderLine l = false)
    (rest : List Text) (hrest : d.lines.drop i = rest)
    (h : Abreast policy e f s (d.scanAt policy e i) (d.scanAt policy f i) again) :
    keptLines policy f again (keptLines policy e (d.scanAt policy e i) rest) =
      weaveFrom (fun _ => []) (fun j => d.keeps policy e j && d.keeps policy f j) i rest := by
  induction rest generalizing i s again with
  | nil => rfl
  | cons line more ih =>
      have hline : d.lines[i]? = some line := by
        rw [← List.head?_drop, hrest, List.head?_cons]
      have hmore : d.lines.drop (i + 1) = more := by
        rw [← List.tail_drop, hrest, List.tail_cons]
      have hmem : line ∈ d.lines := List.mem_of_getElem? hline
      have hkeeps : ∀ g, d.keeps policy g i = ((d.scanAt policy g i).step policy g line).2 := by
        simp [keeps, hline]
      obtain ⟨s', hdropped, hkept⟩ := h.step (he line hmem) (hf line hmem)
      rw [← scanAt_succ hline, ← scanAt_succ hline] at hdropped hkept
      rw [weaveFrom, hkeeps, hkeeps, keptLines, ← scanAt_succ hline]
      cases hfirst : ((d.scanAt policy e i).step policy e line).2 with
      | false => exact ih hmore (hdropped hfirst)
      | true =>
          obtain ⟨hsame, habreast⟩ := hkept hfirst
          rw [if_pos rfl, keptLines, ih hmore habreast, hsame]
          cases ((d.scanAt policy f i).step policy f line).2 <;> rfl

theorem trimBlankEdges_append_left {gap lines : List Text} (hgap : ∀ l ∈ gap, isBlank l = true) :
    trimBlankEdges ⟨gap ++ lines⟩ = trimBlankEdges ⟨lines⟩ := by
  unfold trimBlankEdges
  rw [List.dropWhile_append_of_pos hgap]

/-- Blank lines at the edges of a document decide nothing in a removal. -/
theorem removeHost_trimBlankEdges (policy : MatchPolicy) (e : Entity) (d : Document) :
    d.trimBlankEdges.removeHost policy e = d.removeHost policy e := by
  have hgap : ∀ l ∈ d.lines.takeWhile isBlank, isBlank l = true :=
    fun l hl => List.mem_takeWhile_imp hl
  have houtside : ScanState.outside.enterAll (d.lines.takeWhile isBlank) = .outside :=
    enterAll_of_deep fun l hl => isShallow_of_isBlank (hgap l hl)
  have hsettle : d.trimBlankEdges = settle ⟨d.lines.dropWhile isBlank⟩ := rfl
  rw [hsettle, removeHost_settle, removeHost, removeHost]
  conv_rhs => rw [← List.takeWhile_append_dropWhile (p := isBlank) (l := d.lines),
    keptLines_free_append regular_outside fun l hl => startsBlock_of_isBlank (hgap l hl),
    trimBlankEdges_append_left hgap, houtside]

theorem removeHost_eq_without_keeps (policy : MatchPolicy) (e : Entity) (d : Document) :
    d.removeHost policy e = (d.without fun i => d.keeps policy e i = false).trimBlankEdges := by
  rw [removeHost_eq_weave, weave, List.append_nil, weaveFrom_eq_filter, without]
  simp

/-- A second removal takes what it takes alone, of the lines that are left. -/
theorem removeHost_removeHost
    (he : ∀ l ∈ d.lines, indentOf l ≤ 2 → policy.startsBlock e l = false)
    (hf : ∀ l ∈ d.lines, indentOf l ≤ 2 → policy.startsBlock f l = false) :
    (d.removeHost policy e).removeHost policy f = (d.without fun i =>
      d.keeps policy e i = false ∨ d.keeps policy f i = false).trimBlankEdges := by
  have hstarts : ∀ {g : Entity}, (∀ l ∈ d.lines, indentOf l ≤ 2 → policy.startsBlock g l = false) →
      ∀ l ∈ d.lines, policy.startsBlock g l = true → isHeaderLine l = false := by
    intro g hg l hl hstart
    rw [Bool.eq_false_iff]
    intro hheader
    rw [hg l hl (isHeaderLine_iff.mp hheader).shallow] at hstart
    cases hstart
  have hwithin : ∀ g, Within policy g .outside .outside := fun _ => ⟨regular_outside, .inl rfl⟩
  have htop : Abreast policy e f .outside .outside .outside .outside :=
    ⟨hwithin e, hwithin f, hwithin f, .inl rfl⟩
  have hkept : keptLines policy f .outside (keptLines policy e .outside d.lines) = _ :=
    keptLines_keptLines_drop (hstarts he) (hstarts hf) d.lines (i := 0) rfl htop
  have hremoved : d.removeHost policy e =
      trimBlankEdges ⟨keptLines policy e .outside d.lines⟩ := rfl
  rw [hremoved, removeHost_trimBlankEdges, removeHost, hkept, weaveFrom_eq_filter, without]
  congr 4
  funext numbered
  cases d.keeps policy e numbered.2 <;> cases d.keeps policy f numbered.2 <;> rfl

/-- A removal drops the lines that its scan does not keep, and the blank edges. Where no line at
most two deep opens a block of either host, two removals commute and drop what each drops. -/
theorem removals_commute
    (he : ∀ l ∈ d.lines, indentOf l ≤ 2 → policy.startsBlock e l = false)
    (hf : ∀ l ∈ d.lines, indentOf l ≤ 2 → policy.startsBlock f l = false) :
    (∀ g, d.removeHost policy g =
        (d.without fun i => d.keeps policy g i = false).trimBlankEdges) ∧
      (d.removeHost policy e).removeHost policy f = (d.removeHost policy f).removeHost policy e ∧
      (d.removeHost policy e).removeHost policy f = (d.without fun i =>
        d.keeps policy e i = false ∨ d.keeps policy f i = false).trimBlankEdges := by
  refine ⟨fun g => removeHost_eq_without_keeps policy g d, ?_, removeHost_removeHost he hf⟩
  rw [removeHost_removeHost he hf, removeHost_removeHost hf he]
  simp only [or_comm]

/-- Blocks of two hosts that begin and end inside each other. -/
def wovenRouters : Document :=
  ⟨["", "http:", "  routers:", "    shop-router:", "    blog-router:",
    "      rule: Host(`shop.example`)", "", "      # Routes for blog.example", "    other-router:",
    "      rule: Host(`blog.example`)", "", "  services:", ""].map String.toList⟩

theorem removals_commute_sample :
    (wovenRouters.removeHost .firstLabel shopHost).removeHost .firstLabel blogHost =
        ⟨["http:", "  routers:", "    other-router:", "  services:"].map String.toList⟩ ∧
      (wovenRouters.removeHost .firstLabel blogHost).removeHost .firstLabel shopHost =
        ⟨["http:", "  routers:", "    other-router:", "  services:"].map String.toList⟩ := by
  have he : ∀ l ∈ wovenRouters.lines, indentOf l ≤ 2 →
      MatchPolicy.firstLabel.startsBlock shopHost l = false := by decide +kernel
  have hf : ∀ l ∈ wovenRouters.lines, indentOf l ≤ 2 →
      MatchPolicy.firstLabel.startsBlock blogHost l = false := by decide +kernel
  obtain ⟨-, hcommute, hboth⟩ := removals_commute he hf
  rw [← hcommute, hboth]
  exact ⟨by decide +kernel, by decide +kernel⟩

end Document
end HostRouting
