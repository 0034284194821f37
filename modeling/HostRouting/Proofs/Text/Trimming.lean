import HostRouting.Text.Lines
import Mathlib.Data.List.DropRight

/-!
# Cutting ends off, searching, and lines of a block

Facts about trimming, occurrence and blocks of lines that hold for every text. Removing
a final stretch sees only the end of a list; white space added at an end of a text does
not change what trimming leaves. A block written from lines without line feeds is read
back as these lines, each without one carriage return at its end.
-/
namespace HostRouting

variable {α : Type} (p : α → Bool)

theorem dropEndWhile_eq_nil_iff (l : List α) : dropEndWhile p l = [] ↔ ∀ a ∈ l, p a = true :=
  List.rdropWhile_eq_nil_iff

/-- Cut where the final stretch begins; the part behind holds only what is dropped. -/
theorem exists_append_dropEndWhile (l : List α) :
    ∃ gap, l = dropEndWhile p l ++ gap ∧ ∀ a ∈ gap, p a = true :=
  ⟨l.rtakeWhile p, List.rdropWhile_append_rtakeWhile.symm,
    fun _ h => List.mem_rtakeWhile_imp h⟩

theorem getLast?_dropEndWhile (l : List α) : ∀ a ∈ (dropEndWhile p l).getLast?, p a = false :=
  (dropEndWhile_eq_self_iff p _).mp (List.rdropWhile_idempotent p l)

theorem dropEndWhile_eq_nil_or_concat (l : List α) :
    dropEndWhile p l = [] ∨ ∃ m a, dropEndWhile p l = m ++ [a] ∧ p a = false := by
  rcases List.eq_nil_or_concat (dropEndWhile p l) with h | ⟨m, a, h⟩
  · exact .inl h
  · refine .inr ⟨m, a, by rw [h, List.concat_eq_append], getLast?_dropEndWhile p l a ?_⟩
    simp [h]

theorem dropEndWhile_append_of_all {l m : List α} (h : ∀ a ∈ m, p a = true) :
    dropEndWhile p (l ++ m) = dropEndWhile p l := by
  unfold dropEndWhile
  rw [List.reverse_append, List.dropWhile_append_of_pos (by simpa using h)]

theorem dropEndWhile_append_of_exists {l m : List α} (h : ∃ a ∈ m, p a = false) :
    dropEndWhile p (l ++ m) = l ++ dropEndWhile p m := by
  have hne : (m.reverse.dropWhile p).isEmpty = false := by
    obtain ⟨a, ha, hp⟩ := h
    rw [List.isEmpty_eq_false_iff]
    intro he
    rw [List.dropWhile_eq_nil_iff] at he
    simp [he a (by simpa using ha)] at hp
  unfold dropEndWhile
  rw [List.reverse_append, List.dropWhile_append, hne]
  simp

theorem dropEndWhile_cons_of_neg {a : α} (m : List α) (h : p a = false) :
    dropEndWhile p (a :: m) = a :: dropEndWhile p m := by
  by_cases hm : ∃ b ∈ m, p b = false
  · exact dropEndWhile_append_of_exists p (l := [a]) hm
  · have hall : ∀ b ∈ m, p b = true := by simpa using hm
    have hs := dropEndWhile_append_of_all p (l := [a]) hall
    rw [List.singleton_append] at hs
    rw [hs, (dropEndWhile_eq_nil_iff p m).mpr hall]
    simp [dropEndWhile, h]

theorem mem_of_mem_dropEndWhile {l : List α} {a : α} (h : a ∈ dropEndWhile p l) : a ∈ l :=
  (List.rdropWhile_prefix p l).subset h

theorem mem_dropEndWhile {l : List α} {a : α} (h : a ∈ l) (hp : p a = false) :
    a ∈ dropEndWhile p l := by
  obtain ⟨gap, hl, hgap⟩ := exists_append_dropEndWhile p l
  rw [hl] at h
  rcases List.mem_append.mp h with h | h
  · exact h
  · simp [hgap a h] at hp

/-- Behind the elements that do not satisfy `p` comes one that does, or nothing. -/
theorem forall_head?_dropWhile_not (l : List α) :
    ∀ a ∈ (l.dropWhile (!p ·)).head?, p a = true := by
  intro a ha
  have hhead := List.head?_dropWhile_not (!p ·) l
  rw [Option.mem_def.mp ha] at hhead
  simpa using hhead

namespace Text

theorem trimStart_append_of_isBlank {s : Text} (t : Text) (h : isBlank s = true) :
    trimStart (s ++ t) = trimStart t :=
  List.dropWhile_append_of_pos (by simpa [isBlank] using h)

theorem trimEnd_append_of_isBlank (s : Text) {t : Text} (h : isBlank t = true) :
    trimEnd (s ++ t) = trimEnd s :=
  dropEndWhile_append_of_all isSpace (by simpa [isBlank] using h)

theorem trim_append_left {s : Text} (t : Text) (h : isBlank s = true) :
    trim (s ++ t) = trim t := by
  rw [trim, trimStart_append_of_isBlank t h, trim]

theorem trim_append_right (s : Text) {t : Text} (h : isBlank t = true) :
    trim (s ++ t) = trim s := by
  by_cases hs : isBlank s = true
  · rw [(trim_eq_nil_iff s).2 hs, trim_eq_nil_iff, isBlank, List.all_append, Bool.and_eq_true]
    exact ⟨hs, h⟩
  · have hne : (s.dropWhile isSpace).isEmpty = false := by
      rw [List.isEmpty_eq_false_iff]
      exact fun he => hs ((trimStart_eq_nil_iff s).1 he)
    have hstart : trimStart (s ++ t) = trimStart s ++ t := by
      simp [trimStart, List.dropWhile_append, hne]
    rw [trim, hstart, trimEnd_append_of_isBlank _ h, trim]

theorem head?_of_trim {t : Text} (h : trim t = t) : ∀ c ∈ t.head?, isSpace c = false := by
  intro c hc
  rw [← h, trim, head?_trimEnd _ (head?_trimStart _)] at hc
  exact head?_trimStart _ c hc

theorem head?_cons_visible {c : Char} {t : Text} (hc : isSpace c = false) :
    ∀ x ∈ (c :: t).head?, isSpace x = false := by
  intro x hx
  obtain rfl : c = x := Option.some.inj hx
  exact hc

/-- A text with visible characters at both ends is its own trimming. -/
theorem trim_eq_self {t : Text} (hhead : ∀ c ∈ t.head?, isSpace c = false)
    (hlast : ∀ c ∈ t.getLast?, isSpace c = false) : trim t = t := by
  rw [trim, (trimStart_eq_self_iff t).2 hhead, trimEnd, dropEndWhile_eq_self_iff]
  exact hlast

/-- A text without white space is its own trimming. -/
theorem trim_eq_self_of_visible {t : Text} (h : ∀ c ∈ t, isSpace c = false) : trim t = t :=
  trim_eq_self (fun c hc => h c (List.mem_of_mem_head? hc))
    fun c hc => h c (List.mem_of_mem_getLast? hc)

theorem isSpace_of_isDigit {c : Char} (h : c.isDigit = true) : isSpace c = false := by
  simp only [Char.isDigit, Bool.and_eq_true, decide_eq_true_eq, ge_iff_le,
    UInt32.le_iff_toNat_le] at h
  have hrange : 48 ≤ c.toNat ∧ c.toNat ≤ 57 := h
  rw [Bool.eq_false_iff]
  intro hs
  simp only [isSpace, Bool.or_eq_true, Bool.and_eq_true, decide_eq_true_eq, beq_iff_eq] at hs
  omega

theorem mem_of_mem_trim {t : Text} {c : Char} (h : c ∈ trim t) : c ∈ t :=
  (List.dropWhile_suffix _).subset (mem_of_mem_dropEndWhile isSpace h)

theorem mem_trim {t : Text} {c : Char} (h : c ∈ t) (hc : isSpace c = false) : c ∈ trim t := by
  refine mem_dropEndWhile isSpace ?_ hc
  rw [← List.takeWhile_append_dropWhile (p := isSpace) (l := t)] at h
  rcases List.mem_append.mp h with h | h
  · rw [List.mem_takeWhile_imp h] at hc
    cases hc
  · exact h

theorem trim_isInfix (t : Text) : trim t <:+: t :=
  (List.rdropWhile_prefix isSpace _).isInfix.trans (List.dropWhile_suffix isSpace).isInfix

theorem isBlank_trim (t : Text) : isBlank (trim t) = isBlank t := by
  rw [Bool.eq_iff_iff, ← trim_eq_nil_iff, ← trim_eq_nil_iff, trim_trim]

theorem isBlank_replicate (n : Nat) : isBlank (List.replicate n ' ') = true := by
  have hs : isSpace ' ' = true := by decide
  simp [isBlank, List.all_replicate, hs]

theorem not_isBlank_of_mem {t : Text} {c : Char} (h : c ∈ t) (hc : isSpace c = false) :
    isBlank t = false := by
  rw [isBlank, List.all_eq_false]
  exact ⟨c, h, by simp [hc]⟩

theorem occursIn_iff_isInfix (needle t : Text) : occursIn needle t = true ↔ needle <:+: t := by
  induction t with
  | nil => simp [occursIn]
  | cons c rest ih =>
      rw [occursIn, Bool.or_eq_true, List.isPrefixOf_iff_prefix, ih, List.infix_cons_iff]

/-- The line without the carriage return that ends it, if there is one. -/
theorem eq_dropReturn_append (line : Text) :
    line = dropReturn line ∨ line = dropReturn line ++ ['\r'] := by
  unfold dropReturn
  split_ifs with h
  · exact .inr (List.dropLast_append_getLast? _ h).symm
  · exact .inl rfl

theorem trim_dropReturn (line : Text) : trim (dropReturn line) = trim line := by
  rcases eq_dropReturn_append line with h | h
  · rw [← h]
  · conv_rhs => rw [h]
    exact (trim_append_right _ (by decide)).symm

theorem isBlank_dropReturn (line : Text) : isBlank (dropReturn line) = isBlank line := by
  rw [Bool.eq_iff_iff, ← trim_eq_nil_iff, ← trim_eq_nil_iff, trim_dropReturn]

/-- Lines that are written and split again come back as the pieces of each line in turn. -/
theorem splitOn_ofLines_eq_flatMap (lines : List Text) :
    (ofLines lines).splitOn '\n' = lines.flatMap (·.splitOn '\n') ++ [[]] := by
  induction lines with
  | nil => rfl
  | cons line rest ih =>
      rw [ofLines_cons, List.splitOn_append_cons_self, ih, List.flatMap_cons, List.append_assoc]

theorem flatMap_splitOn {lines : List Text} (h : ∀ l ∈ lines, '\n' ∉ l) :
    lines.flatMap (·.splitOn '\n') = lines := by
  rw [List.flatMap_congr fun l hl => List.splitOn_eq_singleton (h l hl), List.flatMap_singleton']

theorem terminatedLines_ofLines_eq_map (lines : List Text) :
    terminatedLines (ofLines lines) = (lines.flatMap (·.splitOn '\n')).map dropReturn := by
  rw [terminatedLines, splitOn_ofLines_eq_flatMap]
  simp

/-- Reading a block back gives its lines, each without a carriage return at its end. -/
theorem terminatedLines_ofLines {lines : List Text} (h : ∀ l ∈ lines, '\n' ∉ l) :
    terminatedLines (ofLines lines) = lines.map dropReturn := by
  rw [terminatedLines_ofLines_eq_map, flatMap_splitOn h]

end Text
end HostRouting
