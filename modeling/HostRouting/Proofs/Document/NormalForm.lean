import HostRouting.Proofs.Document.Settling

/-!
# The normal form of a text

Reading and writing undo each other up to what follows the last visible line. A document that is
written and read back has lost the blank lines at its end. A text that is read and written is cut
behind its last visible line, which keeps its own white space, and ended in one line feed; of a
blank text nothing is left. The proof goes through the text line by line: the first line stays as
it stands if a visible one is below it, and is otherwise the last visible line itself.
-/
namespace HostRouting
open Text

/-- The last visible line of a text, with the lines above it and the blank rest behind it. -/
structure LastVisibleLine (t above line behind : Text) : Prop where
  text : t = above ++ line ++ behind
  above_ended : ∀ c ∈ above.getLast?, c = '\n'
  newline_not_mem : '\n' ∉ line
  behind_apart : ∀ c ∈ behind.head?, c = '\n'
  line_visible : isBlank line = false
  behind_blank : isBlank behind = true

section
variable {t above line behind l rest : Text}

theorem LastVisibleLine.of_single_line (hn : '\n' ∉ t) (ht : isBlank t = false) :
    LastVisibleLine t [] t [] where
  text := by simp
  above_ended := by simp
  newline_not_mem := hn
  behind_apart := by simp
  line_visible := ht
  behind_blank := rfl

/-- A visible line with nothing but white space from its line feed on is the last one. -/
theorem LastVisibleLine.of_blank_rest (hn : '\n' ∉ l) (hl : isBlank l = false)
    (hrest : isBlank rest = true) : LastVisibleLine (l ++ '\n' :: rest) [] l ('\n' :: rest) where
  text := rfl
  above_ended := by simp
  newline_not_mem := hn
  behind_apart := by simp
  line_visible := hl
  behind_blank := by rw [← List.nil_append ('\n' :: rest), isBlank_append_newline, hrest]; rfl

/-- A line put on top joins the lines above. -/
theorem LastVisibleLine.cons (h : LastVisibleLine t above line behind) (l : Text) :
    LastVisibleLine (l ++ '\n' :: t) (l ++ '\n' :: above) line behind where
  text := by simp [h.text]
  above_ended := by
    intro c hc
    rw [List.getLast?_append_of_ne_nil _ (List.cons_ne_nil _ _), List.getLast?_cons] at hc
    cases hlast : above.getLast? with
    | none => simpa [hlast] using hc.symm
    | some last =>
        obtain rfl : last = c := by simpa [hlast] using hc
        exact h.above_ended last hlast
  newline_not_mem := h.newline_not_mem
  behind_apart := h.behind_apart
  line_visible := h.line_visible
  behind_blank := h.behind_blank

end

namespace Document

variable {d : Document} {l t : Text} {rest : List Text}

/-- The second document is the first one without the blank lines at its end. -/
structure SettlesTo (d settled : Document) : Prop where
  dropped : ∃ gap, d.lines = settled.lines ++ gap ∧ ∀ l ∈ gap, isBlank l = true
  last_visible : ∀ l ∈ settled.lines.getLast?, isBlank l = false

theorem settlesTo_settle (d : Document) : d.SettlesTo d.settle where
  dropped := exists_append_dropEndWhile isBlank d.lines
  last_visible := getLast?_dropEndWhile isBlank d.lines

theorem ofText_of_newline_not_mem (h : '\n' ∉ t) : ofText t = ⟨if t = [] then [] else [t]⟩ := by
  unfold ofText
  rw [List.splitOn_eq_singleton h]
  by_cases ht : t = [] <;> simp [ht]

theorem ofText_append_newline (h : '\n' ∉ l) (t : Text) :
    ofText (l ++ '\n' :: t) = ⟨l :: (ofText t).lines⟩ := by
  have hpieces : t.splitOn '\n' ≠ [] := List.splitOn_ne_nil '\n' t
  unfold ofText
  rw [List.splitOn_append_cons_self_of_not_mem h]
  dsimp only
  rw [List.getLast?_cons_of_ne_nil hpieces, List.dropLast_cons_of_ne_nil hpieces]
  split_ifs <;> rfl

theorem forall_isBlank_ofText_iff (t : Text) :
    (∀ l ∈ (ofText t).lines, isBlank l = true) ↔ isBlank t = true := by
  induction t using piece_induction '\n' with
  | last t hn =>
      rw [ofText_of_newline_not_mem hn]
      by_cases ht : t = []
      · simp [ht, isBlank]
      · simp [ht]
  | ended l rest hn ih =>
      rw [ofText_append_newline hn, List.forall_mem_cons, ih, isBlank_append_newline,
        Bool.and_eq_true]

theorem toText_of_blank (h : ∀ l ∈ d.lines, isBlank l = true) : d.toText = [] := by
  rw [toText, (dropEndWhile_eq_nil_iff isBlank d.lines).mpr h, ofLines_nil]

theorem toText_cons_of_visible_below (l : Text) (h : ∃ r ∈ rest, isBlank r = false) :
    toText ⟨l :: rest⟩ = l ++ '\n' :: toText ⟨rest⟩ := by
  have hdropped : dropEndWhile isBlank (l :: rest) = l :: dropEndWhile isBlank rest :=
    dropEndWhile_append_of_exists isBlank (l := [l]) h
  rw [toText, hdropped, ofLines_cons, toText]

theorem toText_cons_of_blank_below (hl : isBlank l = false) (h : ∀ r ∈ rest, isBlank r = true) :
    toText ⟨l :: rest⟩ = l ++ ['\n'] := by
  have hnone : dropEndWhile isBlank rest = [] := (dropEndWhile_eq_nil_iff isBlank rest).mpr h
  rw [toText, dropEndWhile_cons_of_neg isBlank rest hl, hnone, ofLines_cons, ofLines_nil]

/-- A text with a visible character is written out up to the end of its last visible line, which is
the first one exactly when nothing visible is below it. -/
theorem exists_lastVisibleLine (h : isBlank t = false) : ∃ above line behind,
    LastVisibleLine t above line behind ∧ (ofText t).toText = above ++ line ++ ['\n'] := by
  induction t using piece_induction '\n' with
  | last t hn =>
      have hne : t ≠ [] := by
        rintro rfl
        cases h
      refine ⟨[], t, [], .of_single_line hn h, ?_⟩
      rw [ofText_of_newline_not_mem hn, if_neg hne, toText_cons_of_blank_below h (by simp),
        List.nil_append]
  | ended l rest hn ih =>
      rw [isBlank_append_newline] at h
      rw [ofText_append_newline hn]
      cases hrest : isBlank rest with
      | true =>
          have hl : isBlank l = false := by rwa [hrest, Bool.and_true] at h
          refine ⟨[], l, '\n' :: rest, .of_blank_rest hn hl hrest, ?_⟩
          rw [toText_cons_of_blank_below hl ((forall_isBlank_ofText_iff rest).mpr hrest),
            List.nil_append]
      | false =>
          obtain ⟨above, line, behind, hline, htext⟩ := ih hrest
          have hbelow : ∃ r ∈ (ofText rest).lines, isBlank r = false := by
            have hvisible := (forall_isBlank_ofText_iff rest).not.mpr (by simp [hrest])
            simpa using hvisible
          refine ⟨l ++ '\n' :: above, line, behind, hline.cons l, ?_⟩
          calc toText ⟨l :: (ofText rest).lines⟩
              = l ++ '\n' :: (ofText rest).toText := toText_cons_of_visible_below l hbelow
            _ = l ++ '\n' :: (above ++ line ++ ['\n']) := by rw [htext]
            _ = l ++ '\n' :: above ++ line ++ ['\n'] := by simp

/-- What is written of a document is read back without the blank lines at its end, so nothing is
lost of one without blank edges. What is read of a text is written up to the end of its last
visible line, with one line feed behind it, and so reading and writing once more changes nothing. -/
theorem text_normal_form (d : Document) (t : Text) :
    ((∀ l ∈ d.lines, '\n' ∉ l) → d.SettlesTo (ofText d.toText) ∧
      ofText d.trimBlankEdges.toText = d.trimBlankEdges) ∧
    (isBlank t = true → (ofText t).toText = []) ∧
    (isBlank t = false → ∃ above line behind, LastVisibleLine t above line behind ∧
      (ofText t).toText = above ++ line ++ ['\n']) ∧
    (ofText (ofText t).toText).toText = (ofText t).toText := by
  refine ⟨fun h => ⟨?_, ?_⟩, fun h => ?_, exists_lastVisibleLine, ?_⟩
  · rw [ofText_toText h]
    exact settlesTo_settle d
  · rw [ofText_toText fun l hl => h l (mem_of_mem_trimBlankEdges hl), settle_trimBlankEdges]
  · exact toText_of_blank ((forall_isBlank_ofText_iff t).mpr h)
  · rw [ofText_toText fun l hl => newline_not_mem_of_mem_ofText hl, toText_settle]

/-- A document between blank lines of several kinds of white space. -/
def paddedSections : Document :=
  ⟨["", "\u2003", "http:  ", "", "  routers:\r", "\r", "\u00a0"].map String.toList⟩

/-- Visible lines that end in white space, a blank line between them and several behind. -/
def raggedText : Text := "http:\r\n \n  routers:\t \n\u00a0\n\r\n  ".toList

theorem text_normal_form_sample :
    paddedSections.SettlesTo (ofText paddedSections.toText) ∧
    ofText paddedSections.trimBlankEdges.toText =
      ⟨["http:  ", "", "  routers:\r"].map String.toList⟩ ∧
    (ofText "\r\n \n\u3000".toList).toText = [] ∧
    (∃ above line behind, LastVisibleLine raggedText above line behind ∧
      (ofText raggedText).toText = above ++ line ++ ['\n']) ∧
    (ofText raggedText).toText = "http:\r\n \n  routers:\t \n".toList := by
  obtain ⟨hdocument, -, hvisible, -⟩ := text_normal_form paddedSections raggedText
  obtain ⟨-, hblank, -, -⟩ := text_normal_form paddedSections "\r\n \n\u3000".toList
  obtain ⟨hsettled, htrimmed⟩ := hdocument (by decide)
  exact ⟨hsettled, htrimmed.trans (by decide), hblank (by decide), hvisible (by decide), by decide⟩

end Document
end HostRouting
