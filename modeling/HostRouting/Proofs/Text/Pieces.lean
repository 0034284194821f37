import HostRouting.Proofs.Text.Words

/-!
# Pieces between separators

A text is cut at its separators from the front: it is a piece that no separator follows, or a
piece, a separator and a text that is cut in turn, and facts about pieces follow this form. A piece
holds no separator, and a text without the separator stands in a line exactly when it stands in one
of the pieces of the line. So a line without line feeds comes back whole from a written block,
whatever the lines around it are.
-/
namespace HostRouting.Text

/-- A line without line feeds is read back from a block, whatever the other lines are. -/
theorem mem_terminatedLines_ofLines {line : Text} {lines : List Text} (hl : line ∈ lines)
    (hn : '\n' ∉ line) : dropReturn line ∈ terminatedLines (ofLines lines) := by
  rw [terminatedLines_ofLines_eq_map]
  refine List.mem_map_of_mem (List.mem_flatMap.mpr ⟨line, hl, ?_⟩)
  rw [List.splitOn_eq_singleton hn]
  exact List.mem_singleton_self line

variable {s : Char}

/-- Induction on a text from one separator to the next. -/
@[elab_as_elim]
theorem piece_induction (s : Char) {motive : Text → Prop} (last : ∀ t, s ∉ t → motive t)
    (ended : ∀ piece rest, s ∉ piece → motive rest → motive (piece ++ s :: rest)) (t : Text) :
    motive t := by
  by_cases hs : s ∈ t
  · obtain ⟨piece, rest, rfl, hpiece⟩ := List.eq_append_cons_of_mem hs
    exact ended piece rest hpiece (piece_induction s last ended rest)
  · exact last t hs
termination_by t.length

theorem not_mem_of_mem_splitOn {t piece : Text} (h : piece ∈ t.splitOn s) : s ∉ piece := by
  induction t using piece_induction s with
  | last t hs =>
      rw [List.splitOn_eq_singleton hs, List.mem_singleton] at h
      rwa [h]
  | ended x rest hx ih =>
      rw [List.splitOn_append_cons_self_of_not_mem hx, List.mem_cons] at h
      rcases h with rfl | h
      · exact hx
      · exact ih h

theorem newline_not_mem_of_mem_terminatedLines {t line : Text} (h : line ∈ terminatedLines t) :
    '\n' ∉ line := by
  have hpiece : ∀ piece ∈ (t.splitOn '\n').reverse, '\n' ∉ piece :=
    fun piece hp => not_mem_of_mem_splitOn (List.mem_reverse.mp hp)
  unfold terminatedLines at h
  cases hr : (t.splitOn '\n').reverse with
  | nil => simp [hr] at h
  | cons last ended =>
      rw [hr] at h hpiece
      rcases List.mem_append.mp h with h | h
      · obtain ⟨piece, hp, rfl⟩ := List.mem_map.mp (List.mem_reverse.mp h)
        have hn := hpiece piece (List.mem_cons_of_mem _ hp)
        rcases eq_dropReturn_append piece with he | he
        · rwa [← he]
        · exact fun hc => hn (by rw [he]; exact List.mem_append_left _ hc)
      · split_ifs at h
        · cases h
        · rw [List.mem_singleton.mp h]
          exact hpiece last List.mem_cons_self

/-- A text without the separator does not reach across one. -/
theorem isInfix_append_cons_iff {n x y : Text} (h : s ∉ n) :
    n <:+: x ++ s :: y ↔ n <:+: x ∨ n <:+: y := by
  constructor
  · rintro ⟨a, b, hab⟩
    rcases List.append_eq_append_iff.mp hab with ⟨c, rfl, -⟩ | ⟨c, han, hy⟩
    · exact .inl ⟨a, c, rfl⟩
    · cases c with
      | nil => exact .inl ⟨a, [], by simpa using han⟩
      | cons t c =>
          obtain ⟨rfl, rfl⟩ := List.cons.inj hy
          rcases List.append_eq_append_iff.mp han with ⟨u, -, rfl⟩ | ⟨u, -, hc⟩
          · simp at h
          · cases u with
            | nil =>
                rw [List.nil_append] at hc
                simp [← hc] at h
            | cons t u =>
                obtain ⟨-, rfl⟩ := List.cons.inj hc
                exact .inr ⟨u, b, rfl⟩
  · rintro (hx | hy)
    · exact hx.trans (List.prefix_append _ _).isInfix
    · exact hy.trans ((List.suffix_cons _ _).trans (List.suffix_append _ _)).isInfix

theorem isInfix_iff_exists_mem_splitOn {n : Text} (h : s ∉ n) (t : Text) :
    n <:+: t ↔ ∃ piece ∈ t.splitOn s, n <:+: piece := by
  induction t using piece_induction s with
  | last t hs =>
      rw [List.splitOn_eq_singleton hs]
      simp
  | ended x rest hx ih =>
      rw [isInfix_append_cons_iff h, List.splitOn_append_cons_self_of_not_mem hx, ih]
      simp only [List.mem_cons, exists_eq_or_imp]

/-- A line feed is white space, so a text is blank when it is blank on both sides of one. -/
theorem isBlank_append_newline (l t : Text) :
    isBlank (l ++ '\n' :: t) = (isBlank l && isBlank t) := by
  have hspace : isSpace '\n' = true := by decide
  rw [isBlank, List.all_append, List.all_cons, hspace, Bool.true_and]
  rfl

end HostRouting.Text
