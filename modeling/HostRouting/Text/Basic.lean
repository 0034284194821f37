/-!
# Text as a list of characters

All text of this library is a list of characters, so that cutting, searching and
joining are list operations. This module fixes what white space is (the Unicode
property `White_Space`, every character of it and no other), and with it trimming
and blankness. Case, normalisation and grapheme clusters are not covered.
-/
namespace HostRouting

abbrev Text := List Char

/-- The list without its longest final stretch of elements satisfying `p`. -/
def dropEndWhile {α : Type} (p : α → Bool) (l : List α) : List α :=
  (l.reverse.dropWhile p).reverse

@[simp] theorem dropEndWhile_nil {α : Type} (p : α → Bool) : dropEndWhile p [] = [] := rfl

theorem dropEndWhile_append_singleton {α : Type} (p : α → Bool) (l : List α) (a : α) :
    dropEndWhile p (l ++ [a]) = if p a then dropEndWhile p l else l ++ [a] := by
  unfold dropEndWhile
  rw [List.reverse_append, List.reverse_singleton, List.singleton_append, List.dropWhile_cons]
  split <;> simp

theorem dropEndWhile_eq_self_iff {α : Type} (p : α → Bool) (l : List α) :
    dropEndWhile p l = l ↔ ∀ a ∈ l.getLast?, p a = false := by
  rcases List.eq_nil_or_concat l with rfl | ⟨m, a, rfl⟩
  · simp
  · rw [List.concat_eq_append, dropEndWhile_append_singleton]
    cases h : p a with
    | false => simp [h]
    | true =>
      simp only [↓reduceIte, List.getLast?_append, List.getLast?_singleton, Option.some_or,
        Option.mem_def, Option.some.injEq, forall_eq', h, Bool.true_eq_false, iff_false]
      intro he
      have hl := congrArg List.length he
      have := (List.dropWhile_sublist p (l := m.reverse)).length_le
      simp only [dropEndWhile, List.length_reverse, List.length_append, List.length_singleton] at hl this
      omega

namespace Text

/-- The characters with the Unicode property `White_Space`. -/
def isSpace (c : Char) : Bool :=
  let n := c.toNat
  (0x09 ≤ n && n ≤ 0x0D) || n == 0x20 || n == 0x85 || n == 0xA0 || n == 0x1680 ||
    (0x2000 ≤ n && n ≤ 0x200A) || n == 0x2028 || n == 0x2029 || n == 0x202F || n == 0x205F ||
    n == 0x3000

def trimStart (t : Text) : Text := t.dropWhile isSpace

def trimEnd (t : Text) : Text := dropEndWhile isSpace t

/-- Text without white space at either end. -/
def trim (t : Text) : Text := trimEnd (trimStart t)

/-- Text of white space only; the empty text is blank. -/
def isBlank (t : Text) : Bool := t.all isSpace

/-- Whether `needle` stands somewhere in the text; the empty text stands everywhere. -/
def occursIn (needle : Text) : Text → Bool
  | [] => needle.isEmpty
  | c :: rest => needle.isPrefixOf (c :: rest) || occursIn needle rest

/-- The text with every `c` replaced by `d`. -/
def replaceChar (c d : Char) (t : Text) : Text := t.map fun x => if x = c then d else x

/-- The decimal digits of a number, without leading zeros. -/
def ofNat (n : Nat) : Text := Nat.toDigits 10 n

theorem trimStart_eq_nil_iff (t : Text) : trimStart t = [] ↔ isBlank t = true := by
  unfold trimStart isBlank
  induction t with
  | nil => simp
  | cons c r ih => cases h : isSpace c <;> simp [h, ih]

theorem trimEnd_eq_nil_iff (t : Text) : trimEnd t = [] ↔ isBlank t = true := by
  rw [trimEnd, dropEndWhile, List.reverse_eq_nil_iff, ← trimStart, trimStart_eq_nil_iff, isBlank,
    List.all_reverse, isBlank]

theorem trim_eq_nil_iff (t : Text) : trim t = [] ↔ isBlank t = true := by
  rw [trim, trimEnd_eq_nil_iff]
  constructor
  · intro h
    rw [← List.takeWhile_append_dropWhile (p := isSpace) (l := t), isBlank, List.all_append,
      Bool.and_eq_true]
    exact ⟨List.all_takeWhile, h⟩
  · intro h
    rw [(trimStart_eq_nil_iff t).2 h]
    rfl

theorem trimStart_eq_self_iff (t : Text) : trimStart t = t ↔ ∀ c ∈ t.head?, isSpace c = false := by
  cases t with
  | nil => simp [trimStart]
  | cons c r =>
    simp only [trimStart, List.dropWhile_cons, List.head?_cons, Option.mem_def, Option.some.injEq,
      forall_eq']
    cases h : isSpace c with
    | false => simp
    | true =>
      simp only [↓reduceIte, Bool.true_eq_false, iff_false]
      intro he
      have := congrArg List.length he
      have := (List.dropWhile_sublist isSpace (l := r)).length_le
      simp at *
      omega

theorem head?_trimStart (t : Text) : ∀ c ∈ (trimStart t).head?, isSpace c = false := by
  intro c hc
  have := List.head?_dropWhile_not isSpace t
  simp only [trimStart, Option.mem_def] at hc
  rw [hc] at this
  simpa using this

theorem trimEnd_trimEnd (t : Text) : trimEnd (trimEnd t) = trimEnd t := by
  unfold trimEnd
  rw [dropEndWhile_eq_self_iff]
  intro c hc
  have := head?_trimStart t.reverse
  simp only [dropEndWhile, List.getLast?_reverse] at hc
  exact this c hc

/-- Trimming an end that starts with a visible character keeps that character. -/
theorem head?_trimEnd (t : Text) (h : ∀ c ∈ t.head?, isSpace c = false) :
    (trimEnd t).head? = t.head? := by
  cases t with
  | nil => rfl
  | cons c r =>
    have hc : isSpace c = false := h c (by simp)
    rcases List.eq_nil_or_concat (trimEnd (c :: r)) with he | ⟨m, a, he⟩
    · rw [trimEnd_eq_nil_iff] at he
      simp [isBlank, hc] at he
    · have hp : trimEnd (c :: r) <+: c :: r := by
        unfold trimEnd dropEndWhile
        have := List.dropWhile_suffix isSpace (l := (c :: r).reverse)
        have := List.reverse_prefix.2 this
        simpa using this
      obtain ⟨s, hs⟩ := hp
      rw [he] at hs ⊢
      cases m with
      | nil => simp at hs ⊢; exact hs.1
      | cons b m => simp at hs ⊢; exact hs.1

theorem trim_trim (t : Text) : trim (trim t) = trim t := by
  have h : trimStart (trim t) = trim t := by
    rw [trimStart_eq_self_iff]
    intro c hc
    rw [trim, head?_trimEnd _ (head?_trimStart t)] at hc
    exact head?_trimStart t c hc
  rw [trim, h, trim, trimEnd_trimEnd]

end Text
end HostRouting
