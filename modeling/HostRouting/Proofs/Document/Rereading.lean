import HostRouting.Proofs.Document.Visible
import HostRouting.Proofs.Text.Pieces

/-!
# Documents written out and read back

A document that is written and read again has the pieces of its lines as lines, without trailing
blank ones. Lines without line feeds come back as they were. The marker of a host
without line feeds stands in the document that is read back exactly when it stood in the one
that was written; that of a host with line feeds stands in no document that was read.
-/
namespace HostRouting
open Text

namespace Document

variable {d : Document} {e : Entity}

theorem lines_ofText_ofLines (lines : List Text) :
    (ofText (ofLines lines)).lines = lines.flatMap (·.splitOn '\n') := by
  unfold ofText
  rw [splitOn_ofLines_eq_flatMap]
  dsimp only
  rw [List.getLast?_concat, if_pos rfl, List.dropLast_concat]

theorem lines_ofText_toText (d : Document) :
    (ofText d.toText).lines = (dropEndWhile isBlank d.lines).flatMap (·.splitOn '\n') :=
  lines_ofText_ofLines _

/-- Lines without line feeds come back as they were, down to the last visible one. -/
theorem lines_ofText_toText_of_newline_not_mem (h : ∀ l ∈ d.lines, '\n' ∉ l) :
    (ofText d.toText).lines = dropEndWhile isBlank d.lines := by
  rw [lines_ofText_toText, flatMap_splitOn fun l hl => h l (mem_of_mem_dropEndWhile _ hl)]

/-- What is read back is visible where the document was, if no line has a line feed. -/
theorem visible_ofText_toText (h : ∀ l ∈ d.lines, '\n' ∉ l) :
    visible (ofText d.toText).lines = visible d.lines := by
  rw [lines_ofText_toText_of_newline_not_mem h, visible_dropEndWhile]

theorem newline_not_mem_of_mem_ofText {t line : Text} (h : line ∈ (ofText t).lines) :
    '\n' ∉ line := by
  unfold ofText at h
  dsimp only at h
  split_ifs at h
  · exact not_mem_of_mem_splitOn (List.mem_of_mem_dropLast h)
  · exact not_mem_of_mem_splitOn h

/-- Line feeds between the pieces of a line do not tear the marker of a host apart. -/
theorem contains_marker_ofText_toText (he : '\n' ∉ e.host) (d : Document) :
    (ofText d.toText).contains e.marker = d.contains e.marker := by
  have hm : '\n' ∉ e.marker := e.newline_not_mem_marker he
  have hwritten : (⟨dropEndWhile isBlank d.lines⟩ : Document).contains e.marker =
      d.contains e.marker := by
    rw [Bool.eq_iff_iff, contains_marker_iff, contains_marker_iff, visible_dropEndWhile]
  refine Eq.trans ?_ hwritten
  rw [Bool.eq_iff_iff, contains_iff, contains_iff, lines_ofText_toText]
  constructor
  · intro hread
    obtain ⟨piece, hp, hmp⟩ := hread
    obtain ⟨l, hl, hp⟩ := List.mem_flatMap.mp hp
    exact ⟨l, hl, (isInfix_iff_exists_mem_splitOn hm l).mpr ⟨piece, hp, hmp⟩⟩
  · intro hwrote
    obtain ⟨l, hl, hml⟩ := hwrote
    obtain ⟨piece, hp, hmp⟩ := (isInfix_iff_exists_mem_splitOn hm l).mp hml
    exact ⟨piece, List.mem_flatMap.mpr ⟨l, hl, hp⟩, hmp⟩

/-- The marker of a host with a line feed stands in no single line. -/
theorem contains_marker_of_newline (he : '\n' ∈ e.host) (h : ∀ l ∈ d.lines, '\n' ∉ l) :
    d.contains e.marker = false := by
  have hm : '\n' ∈ e.marker := List.mem_append_left _ (List.mem_append_right _ he)
  rw [Bool.eq_false_iff, ne_eq, contains_iff]
  intro hc
  obtain ⟨l, hl, hmarker⟩ := hc
  exact h l hl (hmarker.subset hm)

end Document
end HostRouting
