import HostRouting.Proofs.Document.Visible

/-!
# Removals that take nothing

A removal takes nothing exactly when no line opens a block of the host. Adding
another host brings in the lines generated for it and at most one header, so whether a
removal takes something of the other host is a question about these lines alone.
-/
namespace HostRouting
open Text

variable {policy : MatchPolicy} {e f : Entity} {plan : RoutingPlan} {d d' : Document}

theorem startsBlock_visible_iff {lines : List Text} :
    (∀ l ∈ visible lines, policy.startsBlock e l = false) ↔
      ∀ l ∈ lines, policy.startsBlock e l = false := by
  refine ⟨fun h l hl => ?_, fun h l hl => h l (mem_visible.mp hl).1⟩
  cases hb : isBlank l with
  | true => exact startsBlock_of_isBlank hb
  | false => exact h l (mem_visible.mpr ⟨hl, hb⟩)

theorem startsBlock_dropEndWhile_iff {lines : List Text} :
    (∀ l ∈ dropEndWhile isBlank lines, policy.startsBlock e l = false) ↔
      ∀ l ∈ lines, policy.startsBlock e l = false := by
  rw [← startsBlock_visible_iff, visible_dropEndWhile, startsBlock_visible_iff]

theorem startsBlock_indentBlock_iff {lines : List Text} {width : Nat} (hn : ∀ l ∈ lines, '\n' ∉ l) :
    (∀ row ∈ indentBlock (ofLines lines) width, policy.startsBlock e row = false) ↔
      ∀ l ∈ lines, policy.startsBlock e l = false := by
  refine ⟨fun h l hl => ?_, fun h row hr => startsBlock_of_mem_indentBlock hn h hr⟩
  cases hb : isBlank l with
  | true => exact startsBlock_of_isBlank hb
  | false =>
      have hrow := h _ (mem_indentBlock hl (hn l hl) hb)
      rwa [startsBlock_indentLine, startsBlock_dropReturn] at hrow

namespace Document

/-- A removal takes nothing but blank edges exactly when no line opens a block of the host. -/
theorem removeHost_eq_trimBlankEdges_iff :
    d.removeHost policy e = d.trimBlankEdges ↔ ∀ l ∈ d.lines, policy.startsBlock e l = false := by
  constructor
  · intro h
    rw [← startsBlock_visible_iff, ← visible_trimBlankEdges, ← h, visible_removeHost]
    exact fun l hl => startsBlock_of_mem_keptLines hl
  · intro h
    rw [removeHost, keptLines_free ScanState.regular_outside h]

theorem startsBlock_insertBlock_iff {block : Text}
    (h : d.insertBlock f block = .ok (.inserted d')) :
    (∀ l ∈ d'.lines, policy.startsBlock e l = false) ↔
      (∀ l ∈ d.lines, policy.startsBlock e l = false) ∧
        ∀ row ∈ indentBlock block 4, policy.startsBlock e row = false := by
  obtain ⟨-, above, below, hd, -, hd'⟩ := insertBlock_eq_inserted h
  rw [hd', hd]
  simp only [List.forall_mem_append, startsBlock_dropEndWhile_iff]
  tauto

theorem startsBlock_insertServiceBlock_iff {block : Text}
    (h : d.insertServiceBlock block = .ok d') :
    (∀ l ∈ d'.lines, policy.startsBlock e l = false) ↔
      (∀ l ∈ d.lines, policy.startsBlock e l = false) ∧
        ∀ row ∈ indentBlock block 4, policy.startsBlock e row = false := by
  obtain ⟨above, below, hd, -, hd'⟩ := insertServiceBlock_eq_ok h
  have hopening : ∀ l ∈ d.serviceOpening, policy.startsBlock e l = false :=
    d.startsBlock_of_mem_serviceOpening
  rw [hd', hd]
  simp only [List.forall_mem_append, startsBlock_dropEndWhile_iff]
  tauto

/-- What an addition puts in opens blocks of a host only through the lines generated for it. -/
theorem startsBlock_addHost_iff (hf : '\n' ∉ f.host) (hp : plan.OneLine)
    (h : d.addHost policy f plan = .ok (.inserted d')) :
    (∀ l ∈ d'.lines, policy.startsBlock e l = false) ↔
      (∀ l ∈ d.lines, policy.startsBlock e l = false) ∧
        ∀ l ∈ plan.generatedLines policy f, policy.startsBlock e l = false := by
  obtain ⟨routed, hr, hcase⟩ := addHost_eq_inserted h
  have hrouted : (∀ l ∈ routed.lines, policy.startsBlock e l = false) ↔ _ :=
    startsBlock_insertBlock_iff hr
  have hn : ∀ l ∈ plan.routerLines policy f, '\n' ∉ l :=
    fun l hl => RoutingPlan.newline_not_mem_routerLines hf hp hl
  rw [RoutingPlan.routerBlock, startsBlock_indentBlock_iff hn] at hrouted
  rw [RoutingPlan.generatedLines, List.forall_mem_append]
  rcases hcase with ⟨hs, rfl⟩ | ⟨hs, hserved⟩
  · rw [hrouted]
    simp [hs]
  · have hboth : (∀ l ∈ d'.lines, policy.startsBlock e l = false) ↔ _ :=
      startsBlock_insertServiceBlock_iff hserved
    rw [RoutingPlan.serviceBlock, startsBlock_indentBlock_iff
      fun l hl => RoutingPlan.newline_not_mem_serviceLines hf hp.backend hl, hrouted] at hboth
    rw [hboth]
    simp [hs, and_assoc]

/-- Removing one host after another was added takes nothing exactly when no line generated for the
other opens a block of it. -/
theorem removeHost_addHost_other_iff (hf : '\n' ∉ f.host) (hp : plan.OneLine)
    (hfree : ∀ l ∈ d.lines, policy.startsBlock e l = false)
    (h : d.addHost policy f plan = .ok (.inserted d')) :
    d'.removeHost policy e = d'.trimBlankEdges ↔
      ∀ l ∈ plan.generatedLines policy f, policy.startsBlock e l = false := by
  rw [removeHost_eq_trimBlankEdges_iff, startsBlock_addHost_iff hf hp h]
  exact and_iff_right hfree

end Document
end HostRouting
