import HostRouting.Document.Insertion
import HostRouting.Proofs.Text.Trimming

/-!
# Which lines open a block

A line opens a block of a host by its visible text alone: indentation and a carriage
return at its end do not matter, and a blank line never opens one. The line that
creates the section of services opens a block of no host, whatever the host is.
-/
namespace HostRouting
open Text

variable {policy : MatchPolicy} {e : Entity}

theorem indentOf_replicate_append (n : Nat) (line : Text) :
    indentOf (List.replicate n ' ' ++ line) = n + indentOf line := by
  unfold indentOf
  rw [List.takeWhile_append_of_pos (by simp), List.length_append, List.length_replicate]

theorem indentOf_append_return (line : Text) : indentOf (line ++ ['\r']) = indentOf line := by
  unfold indentOf
  rw [List.takeWhile_append]
  split_ifs with h
  · simpa using h.symm
  · rfl

theorem indentOf_dropReturn (line : Text) : indentOf (dropReturn line) = indentOf line := by
  rcases eq_dropReturn_append line with h | h
  · rw [← h]
  · conv_rhs => rw [h, indentOf_append_return]

/-- A line is shallow when it is visible and indented at most `n` spaces. -/
def isShallow (n : Nat) (line : Text) : Bool := !isBlank line && indentOf line ≤ n

theorem isShallow_mono {m n : Nat} (h : m ≤ n) {line : Text} (hl : isShallow m line = true) :
    isShallow n line = true := by
  simp only [isShallow, Bool.and_eq_true, decide_eq_true_eq] at hl ⊢
  exact ⟨hl.1, hl.2.trans h⟩

theorem isShallow_eq_false_iff {n : Nat} {line : Text} :
    isShallow n line = false ↔ isBlank line = true ∨ n < indentOf line := by
  cases hb : isBlank line <;> simp [isShallow, hb]

theorem visible_of_isShallow {n : Nat} {line : Text} (h : isShallow n line = true) :
    isBlank line = false := by
  simp only [isShallow, Bool.and_eq_true, Bool.not_eq_true'] at h
  exact h.1

theorem indentLine_of_isBlank (width : Nat) {line : Text} (h : isBlank line = true) :
    indentLine width line = [] := if_pos h

theorem indentLine_of_not_isBlank (width : Nat) {line : Text} (h : isBlank line = false) :
    indentLine width line = List.replicate width ' ' ++ line := by
  simp [indentLine, h]

theorem isBlank_indentLine (width : Nat) (line : Text) :
    isBlank (indentLine width line) = isBlank line := by
  cases h : isBlank line with
  | true => rw [indentLine_of_isBlank width h]; rfl
  | false =>
      rw [indentLine_of_not_isBlank width h, isBlank, List.all_append, ← isBlank, ← isBlank, h,
        Bool.and_false]

theorem isEmpty_indentLine (width : Nat) (line : Text) :
    (indentLine width line).isEmpty = isBlank line := by
  cases hb : isBlank line with
  | true =>
      rw [indentLine_of_isBlank width hb]
      rfl
  | false =>
      rw [List.isEmpty_eq_false_iff]
      intro he
      have hvisible : isBlank (indentLine width line) = false := by rw [isBlank_indentLine, hb]
      rw [he] at hvisible
      cases hvisible

theorem trim_indentLine (width : Nat) (line : Text) : trim (indentLine width line) = trim line := by
  cases h : isBlank line with
  | true => rw [indentLine_of_isBlank width h, (trim_eq_nil_iff line).2 h]; rfl
  | false => rw [indentLine_of_not_isBlank width h, trim_append_left _ (isBlank_replicate width)]

/-- No visible line of an indented block is a section header or ends a section. -/
theorem indentLine_not_isShallow {width n : Nat} (h : n < width) (line : Text) :
    isShallow n (indentLine width line) = false := by
  cases hb : isBlank line with
  | true => rw [indentLine_of_isBlank width hb]; rfl
  | false =>
      rw [indentLine_of_not_isBlank width hb, isShallow, indentOf_replicate_append]
      have : ¬ width + indentOf line ≤ n := by omega
      simp [this]

namespace Entity

theorem marker_eq (e : Entity) :
    e.marker = 'H' :: ("ost(`".toList ++ e.host ++ "`)".toList) := rfl

theorem marker_eq_concat (e : Entity) :
    e.marker = ("Host(`".toList ++ e.host ++ ['\x60']) ++ [')'] := by
  rw [List.append_assoc]
  rfl

theorem marker_isInfix_replicate_append (e : Entity) (n : Nat) (line : Text) :
    e.marker <:+: List.replicate n ' ' ++ line ↔ e.marker <:+: line := by
  induction n with
  | zero => rfl
  | succ n ih =>
      rw [List.replicate_succ, List.cons_append, List.infix_cons_iff, ih, marker_eq,
        List.cons_prefix_cons]
      simp

theorem marker_isInfix_append_return (e : Entity) (line : Text) :
    e.marker <:+: line ++ ['\r'] ↔ e.marker <:+: line := by
  rw [List.infix_concat_iff, or_iff_right]
  intro hs
  rw [List.suffix_concat_iff] at hs
  rcases hs with hs | ⟨t, hs, _⟩
  · simp [marker_eq] at hs
  · rw [marker_eq_concat] at hs
    have := (List.append_inj_right' hs rfl)
    revert this
    decide

theorem marker_isInfix_dropReturn (e : Entity) (line : Text) :
    e.marker <:+: dropReturn line ↔ e.marker <:+: line := by
  rcases eq_dropReturn_append line with h | h
  · rw [← h]
  · conv_rhs => rw [h, marker_isInfix_append_return]

theorem not_isBlank_of_marker_isInfix {e : Entity} {line : Text} (h : e.marker <:+: line) :
    isBlank line = false :=
  not_isBlank_of_mem (h.subset (by rw [marker_eq]; exact List.mem_cons_self)) (by decide)

end Entity

namespace BlockKind

theorem ending_ne_nil (kind : BlockKind) : kind.ending ≠ [] := by cases kind <;> decide

theorem dash_mem_ending (kind : BlockKind) : '-' ∈ kind.ending := by cases kind <;> decide

theorem mem_all (kind : BlockKind) : kind ∈ all := by cases kind <;> decide

theorem head?_comment (kind : BlockKind) (e : Entity) : (kind.comment e).head? = some '#' := by
  cases kind <;> rfl

end BlockKind

theorem isHeaderComment_iff (line : Text) :
    isHeaderComment e line = true ↔ ∃ kind : BlockKind, trim line = kind.comment e := by
  simp only [isHeaderComment, List.any_eq_true, beq_iff_eq]
  exact ⟨fun ⟨k, _, h⟩ => ⟨k, h⟩, fun ⟨k, h⟩ => ⟨k, k.mem_all, h⟩⟩

theorem isGeneratedName_iff (tag line : Text) :
    isGeneratedName tag line = true ↔ ∃ kind : BlockKind, kind.name tag <+: trim line := by
  simp only [isGeneratedName, List.any_eq_true, List.isPrefixOf_iff_prefix]
  exact ⟨fun ⟨k, _, h⟩ => ⟨k, h⟩, fun ⟨k, h⟩ => ⟨k, k.mem_all, h⟩⟩

theorem startsBlock_iff (line : Text) :
    policy.startsBlock e line = true ↔ e.marker <:+: line ∨
      (∃ kind : BlockKind, trim line = kind.comment e) ∨
      ∃ kind : BlockKind, kind.name (policy.tag e) <+: trim line := by
  rw [MatchPolicy.startsBlock, Bool.or_eq_true, Bool.or_eq_true, occursIn_iff_isInfix,
    isHeaderComment_iff, isGeneratedName_iff, or_assoc]

/-- Opening a block depends on the trimmed line and on where the marker occurs. -/
theorem startsBlock_congr {line line' : Text} (ht : trim line = trim line')
    (hm : e.marker <:+: line ↔ e.marker <:+: line') :
    policy.startsBlock e line = policy.startsBlock e line' := by
  rw [Bool.eq_iff_iff, startsBlock_iff, startsBlock_iff, ht, hm]

theorem startsBlock_dropReturn (line : Text) :
    policy.startsBlock e (dropReturn line) = policy.startsBlock e line :=
  startsBlock_congr (trim_dropReturn line) (e.marker_isInfix_dropReturn line)

theorem startsBlock_of_isBlank {line : Text} (h : isBlank line = true) :
    policy.startsBlock e line = false := by
  rw [Bool.eq_false_iff, ne_eq, startsBlock_iff, (trim_eq_nil_iff line).2 h]
  rintro (hm | ⟨kind, hk⟩ | ⟨kind, hk⟩)
  · rw [Entity.not_isBlank_of_marker_isInfix hm] at h
    cases h
  · have := kind.head?_comment e
    rw [← hk] at this
    cases this
  · rw [List.prefix_nil, BlockKind.name, List.append_eq_nil_iff] at hk
    exact kind.ending_ne_nil hk.2

theorem not_isBlank_of_startsBlock {line : Text} (h : policy.startsBlock e line = true) :
    isBlank line = false := by
  rw [Bool.eq_false_iff]
  intro hb
  rw [startsBlock_of_isBlank hb] at h
  cases h

theorem startsBlock_indentLine (width : Nat) (line : Text) :
    policy.startsBlock e (indentLine width line) = policy.startsBlock e line := by
  cases h : isBlank line with
  | true =>
      rw [indentLine_of_isBlank width h, startsBlock_of_isBlank h, startsBlock_of_isBlank rfl]
  | false =>
      apply startsBlock_congr (trim_indentLine width line)
      rw [indentLine_of_not_isBlank width h, e.marker_isInfix_replicate_append]

theorem startsBlock_of_marker {line : Text} (h : e.marker <:+: line) :
    policy.startsBlock e line = true := startsBlock_iff line |>.2 (.inl h)

theorem startsBlock_of_comment (kind : BlockKind) {line : Text} (h : trim line = kind.comment e) :
    policy.startsBlock e line = true := startsBlock_iff line |>.2 (.inr (.inl ⟨kind, h⟩))

theorem startsBlock_of_name (kind : BlockKind) {line : Text}
    (h : kind.name (policy.tag e) <+: trim line) : policy.startsBlock e line = true :=
  startsBlock_iff line |>.2 (.inr (.inr ⟨kind, h⟩))

/-- A marker has a backtick, a comment begins with `#`, and a name holds a dash. -/
theorem startsBlock_of_plain {line : Text} (h : '\x60' ∉ line ∧ '#' ∉ line ∧ '-' ∉ line) :
    policy.startsBlock e line = false := by
  obtain ⟨hmarker, hcomment, hname⟩ := h
  rw [Bool.eq_false_iff, ne_eq, startsBlock_iff]
  rintro (hm | ⟨kind, hk⟩ | ⟨kind, hk⟩)
  · apply hmarker
    apply hm.subset
    rw [Entity.marker_eq_concat]
    simp
  · apply hcomment
    apply mem_of_mem_trim
    rw [hk]
    exact List.mem_of_mem_head? (kind.head?_comment e)
  · exact hname (mem_of_mem_trim (hk.subset (List.mem_append_right _ kind.dash_mem_ending)))

theorem startsBlock_servicesLine : policy.startsBlock e Document.servicesLine = false :=
  startsBlock_of_plain (by decide)

end HostRouting
