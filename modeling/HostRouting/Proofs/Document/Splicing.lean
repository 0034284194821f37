import HostRouting.Proofs.Document.Visible

/-!
# What an insertion leaves alone

An insertion writes rows between two parts of the document. The part above ends in a visible line,
the part below begins with one, and the rows stand in place of the blank lines between the two. So
every visible line stays, and none of them changes its place relative to another. A shared service
is written into what the insertion of the routers has left, and both insertions are of this form.
-/
namespace HostRouting
open Text SectionHeader

/-- The rows made of a block: its visible lines four spaces further right, the blank ones empty,
and one empty row instead of the blank lines at its end. -/
structure ShiftedRows (block : Text) (kept trailing rows : List Text) : Prop where
  lines : terminatedLines block = kept ++ trailing
  trailing_blank : ∀ l ∈ trailing, isBlank l = true
  kept_visible : ∀ l ∈ kept.getLast?, isBlank l = false
  rows : rows = kept.map (fun l => if isBlank l then [] else "    ".toList ++ l) ++ [[]]

theorem shiftedRows_indentBlock (block : Text) :
    ∃ kept trailing, ShiftedRows block kept trailing (indentBlock block 4) := by
  obtain ⟨trailing, hlines, hblank⟩ := exists_append_dropEndWhile isBlank (terminatedLines block)
  refine ⟨dropEndWhile isBlank (terminatedLines block), trailing, hlines, hblank,
    getLast?_dropEndWhile isBlank _, ?_⟩
  rw [indentBlock]
  congr 1
  have hempty : List.isEmpty ∘ indentLine 4 = isBlank := funext (isEmpty_indentLine 4)
  unfold dropEndWhile
  rw [← List.map_reverse, List.dropWhile_map, ← List.map_reverse, hempty]
  rfl

namespace Document

variable {d d' : Document} {e : Entity} {policy : MatchPolicy} {plan : RoutingPlan}
  {above gap below rows : List Text} {block : Text}

/-- The second document has the rows in place of a gap of blank lines in the first one. -/
structure Spliced (d d' : Document) (above gap below rows : List Text) : Prop where
  before : d.lines = above ++ gap ++ below
  after : d'.lines = above ++ rows ++ below
  gap_blank : ∀ l ∈ gap, isBlank l = true
  above_visible : ∀ l ∈ above.getLast?, isBlank l = false
  below_visible : ∀ l ∈ below.head?, isBlank l = false

/-- What is cut at a shallow line and joined again is spliced. -/
theorem Spliced.of_cut (hd : d.lines = above ++ below)
    (hd' : d'.lines = dropEndWhile isBlank above ++ rows ++ below)
    (hbelow : ∀ l ∈ below.head?, isShallow 2 l = true) :
    ∃ gap, dropEndWhile isBlank above ++ gap = above ∧
      Spliced d d' (dropEndWhile isBlank above) gap below rows := by
  obtain ⟨gap, habove, hblank⟩ := exists_append_dropEndWhile isBlank above
  refine ⟨gap, habove.symm, ?_, hd', hblank, getLast?_dropEndWhile isBlank above,
    fun l hl => visible_of_isShallow (hbelow l hl)⟩
  rw [hd, ← habove]

theorem Spliced.visible_sublist (h : Spliced d d' above gap below rows) :
    (visible d.lines).Sublist (visible d'.lines) := by
  rw [h.before, h.after]
  simp only [visible_append, visible_eq_nil h.gap_blank, List.append_nil]
  exact (List.sublist_append_left _ _).append_right _

theorem spliced_insertBlock (h : d.insertBlock e block = .ok (.inserted d')) :
    ∃ above gap below, Spliced d d' above gap below (indentBlock block 4) := by
  obtain ⟨-, above, below, hd, hc, hd'⟩ := insertBlock_eq_inserted h
  obtain ⟨gap, -, hspliced⟩ := Spliced.of_cut hd hd' hc.bottom_head
  exact ⟨_, gap, below, hspliced⟩

/-- A service block is spliced in at the end of its section, with what is written above it. -/
theorem spliced_insertServiceBlock (h : d.insertServiceBlock block = .ok d') :
    ∃ above gap below, Spliced d d' above gap below (d.serviceOpening ++ indentBlock block 4) ∧
      ∃ n, d.findHeader? d.serviceSection 0 = some n ∧
        (above ++ gap).length = d.sectionEnd n := by
  obtain ⟨above, below, hd, hc, hd'⟩ := insertServiceBlock_eq_ok h
  obtain ⟨gap, hgap, hspliced⟩ := Spliced.of_cut hd hd' (hc.bottom_head d.indent_serviceSection_le)
  obtain ⟨n, hn, hend⟩ := sectionEnd_of_cut hd hc
  refine ⟨_, gap, below, hspliced, n, hn, ?_⟩
  rw [hgap, hend]

theorem visible_sublist_addHost (h : d.addHost policy e plan = .ok (.inserted d')) :
    (visible d.lines).Sublist (visible d'.lines) := by
  obtain ⟨routed, hrouted, hcase⟩ := addHost_eq_inserted h
  obtain ⟨above, gap, below, hspliced⟩ := spliced_insertBlock hrouted
  have hfirst : (visible d.lines).Sublist (visible routed.lines) := hspliced.visible_sublist
  rcases hcase with ⟨-, rfl⟩ | ⟨-, hserved⟩
  · exact hfirst
  · obtain ⟨above', gap', below', hspliced', -⟩ := spliced_insertServiceBlock hserved
    exact hfirst.trans hspliced'.visible_sublist

/-- Every insertion puts the shifted rows of its block in place of some blank lines, with the header
of services above them where that is missing, and an addition keeps all visible lines in order. -/
theorem insertions_splice (d : Document) (e : Entity) (block : Text) :
    (∀ d', d.insertBlock e block = .ok (.inserted d') → ∃ above gap below rows kept trailing,
      Spliced d d' above gap below rows ∧ ShiftedRows block kept trailing rows) ∧
    (∀ d', d.insertServiceBlock block = .ok d' → ∃ above gap below rows kept trailing,
      ShiftedRows block kept trailing rows ∧
        (d.findHeader? .services 0 = none →
          Spliced d d' above gap below ("  services:".toList :: rows)) ∧
        ∀ n, d.findHeader? .services 0 = some n →
          Spliced d d' above gap below rows ∧ (above ++ gap).length = d.sectionEnd n) ∧
    ∀ policy plan d', d.addHost policy e plan = .ok (.inserted d') →
      (visible d.lines).Sublist (visible d'.lines) := by
  obtain ⟨kept, trailing, hrows⟩ := shiftedRows_indentBlock block
  refine ⟨fun d' h => ?_, fun d' h => ?_, fun policy plan d' h => visible_sublist_addHost h⟩
  · obtain ⟨above, gap, below, hspliced⟩ := spliced_insertBlock h
    exact ⟨above, gap, below, _, kept, trailing, hspliced, hrows⟩
  · obtain ⟨above, gap, below, hspliced, n, hn, hend⟩ := spliced_insertServiceBlock h
    refine ⟨above, gap, below, _, kept, trailing, hrows, fun hnone => ?_, fun m hm => ?_⟩
    · rw [serviceOpening, hnone] at hspliced
      exact hspliced
    · rw [serviceSection, hm] at hn
      obtain rfl : m = n := Option.some.inj (hm.symm.trans hn)
      exact ⟨by simpa [serviceOpening, hm] using hspliced, hend⟩

/-- Routers with blank lines below them, and none of the services yet. -/
def spacedRouters : Document :=
  ⟨["http:", "  routers:", "    a:", "      rule: x", "", "   ", "  middlewares:", "    m:", ""].map
    String.toList⟩

/-- Rows with a blank line between them and several at the end. -/
def looseBlock : Text := "new:\n \n  rule: z\r\n\n  \n".toList

theorem insertions_splice_sample :
    (∃ d' above gap below rows kept trailing,
      spacedRouters.insertBlock shopHost looseBlock = .ok (.inserted d') ∧
        Spliced spacedRouters d' above gap below rows ∧
        ShiftedRows looseBlock kept trailing rows) ∧
    (∃ d' above gap below rows kept trailing,
      spacedRouters.insertServiceBlock looseBlock = .ok d' ∧
        Spliced spacedRouters d' above gap below ("  services:".toList :: rows) ∧
        ShiftedRows looseBlock kept trailing rows) ∧
    (∃ d' above gap below rows, bareSections.insertServiceBlock looseBlock = .ok d' ∧
      Spliced bareSections d' above gap below rows ∧
        (above ++ gap).length = bareSections.sectionEnd 2) ∧
    ∃ d', spacedRouters.addHost .firstLabel shopHost { twoServices with separate := false } =
        .ok (.inserted d') ∧ (visible spacedRouters.lines).Sublist (visible d'.lines) := by
  obtain ⟨hrouters, hservices, hadded⟩ := insertions_splice spacedRouters shopHost looseBlock
  obtain ⟨-, hserved, -⟩ := insertions_splice bareSections shopHost looseBlock
  refine ⟨?_, ?_, ?_, _, rfl, hadded .firstLabel { twoServices with separate := false } _ rfl⟩
  · obtain ⟨above, gap, below, rows, kept, trailing, hspliced, hrows⟩ := hrouters _ rfl
    exact ⟨_, above, gap, below, rows, kept, trailing, rfl, hspliced, hrows⟩
  · obtain ⟨above, gap, below, rows, kept, trailing, hrows, hcreated, -⟩ := hservices _ rfl
    exact ⟨_, above, gap, below, rows, kept, trailing, rfl, hcreated (by decide), hrows⟩
  · obtain ⟨above, gap, below, rows, kept, trailing, -, -, hfound⟩ := hserved _ rfl
    obtain ⟨hspliced, hend⟩ := hfound 2 (by decide)
    exact ⟨_, above, gap, below, rows, rfl, hspliced, hend⟩

end Document
end HostRouting
