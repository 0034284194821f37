import HostRouting.Json.Reader
import Mathlib.Data.List.TakeWhile

/-!
# String literals

What stands between the quotes of a string literal spells a text character by character: as itself,
by a short escape, by the escape of its code unit, or by the escapes of a pair of surrogates. The
reader cuts a literal into pieces first and joins them afterwards, and `Parts` is what it has cut:
a literal is read exactly if it can be cut, and it denotes a text exactly if its pieces join.
-/
namespace HostRouting.Json
open Text (isHighSurrogate isLowSurrogate surrogatePair)

/-- The letter behind the backslash and the character that it stands for. -/
def shortEscapes : List (Char × Char) :=
  [('\x22', '\x22'), ('\\', '\\'), ('/', '/'), ('b', '\x08'), ('f', '\x0c'), ('n', '\n'),
    ('r', '\r'), ('t', '\t')]

/-- The written form spells the text. -/
inductive Spells : Text → Text → Prop
  | nil : Spells [] []
  | plain {c : Char} {w t : Text} : 0x20 ≤ c.toNat → c ≠ '\x22' → c ≠ '\\' → Spells w t →
      Spells (c :: w) (c :: t)
  | short {letter c : Char} {w t : Text} : (letter, c) ∈ shortEscapes → Spells w t →
      Spells ('\\' :: letter :: w) (c :: t)
  | unit {a b c d : Char} {n : Nat} {w t : Text} : hexUnit? a b c d = some n →
      isHighSurrogate n = false → isLowSurrogate n = false → Spells w t →
      Spells ('\\' :: 'u' :: a :: b :: c :: d :: w) (Char.ofNat n :: t)
  | pair {a b c d a' b' c' d' : Char} {n m : Nat} {w t : Text} : hexUnit? a b c d = some n →
      hexUnit? a' b' c' d' = some m → isHighSurrogate n = true → isLowSurrogate m = true →
      Spells w t →
      Spells ('\\' :: 'u' :: a :: b :: c :: d :: '\\' :: 'u' :: a' :: b' :: c' :: d' :: w)
        (surrogatePair n m :: t)

/-- The body is a string literal that denotes the text, with white space around it. -/
def IsLiteral (body t : Text) : Prop :=
  ∃ before w after : Text, body = before ++ '\x22' :: (w ++ '\x22' :: after) ∧
    (∀ c ∈ before, isJsonSpace c = true) ∧ (∀ c ∈ after, isJsonSpace c = true) ∧ Spells w t

/-- The written form is cut into the pieces. -/
inductive Parts : Text → List Piece → Prop
  | nil : Parts [] []
  | plain {c : Char} {w : Text} {ps : List Piece} : 0x20 ≤ c.toNat → c ≠ '\x22' → c ≠ '\\' →
      Parts w ps → Parts (c :: w) (.char c :: ps)
  | short {letter c : Char} {w : Text} {ps : List Piece} : (letter, c) ∈ shortEscapes →
      Parts w ps → Parts ('\\' :: letter :: w) (.char c :: ps)
  | unit {a b c d : Char} {n : Nat} {w : Text} {ps : List Piece} : hexUnit? a b c d = some n →
      Parts w ps → Parts ('\\' :: 'u' :: a :: b :: c :: d :: w) (.unit n :: ps)

theorem shortEscape?_eq_some_iff {letter c : Char} :
    shortEscape? letter = some c ↔ (letter, c) ∈ shortEscapes := by
  unfold shortEscape? shortEscapes
  split <;> simp_all [eq_comm]

theorem shortEscape?_u : shortEscape? 'u' = none := rfl

section
variable {t w rest : Text} {ps : List Piece}

theorem exists_parts_of_readPieces (h : readPieces t = some (ps, rest)) :
    ∃ w, t = w ++ '\x22' :: rest ∧ Parts w ps := by
  fun_induction readPieces t generalizing ps rest with
  | case1 => cases h
  | case2 => exact ⟨[], by simp_all, by simp_all [Parts.nil]⟩
  | case3 a b c d tail n pieces left hread hunit ih =>
      cases h
      obtain ⟨w, rfl, hparts⟩ := ih hread
      exact ⟨_, rfl, .unit hunit hparts⟩
  | case4 => cases h
  | case5 letter tail hlong c pieces left hread hshort ih =>
      cases h
      obtain ⟨w, rfl, hparts⟩ := ih hread
      exact ⟨_, rfl, .short (shortEscape?_eq_some_iff.mp hshort) hparts⟩
  | case6 => cases h
  | case7 => cases h
  | case8 c tail hquote hlong hslash hcontrol ih =>
      obtain ⟨⟨pieces, left⟩, hread, heq⟩ := Option.map_eq_some_iff.mp h
      cases heq
      obtain ⟨w, rfl, hparts⟩ := ih hread
      have hnoslash : c ≠ '\\' := by
        intro hc
        cases w with
        | nil => exact hslash _ _ hc rfl
        | cons b w => exact hslash _ _ hc rfl
      exact ⟨c :: w, rfl, .plain (not_lt.mp hcontrol) hquote hnoslash hparts⟩

theorem Parts.readPieces_append (h : Parts w ps) (rest : Text) :
    readPieces (w ++ '\x22' :: rest) = some (ps, rest) := by
  induction h with
  | nil => rfl
  | plain hcontrol hquote hslash _ ih =>
      rw [List.cons_append, readPieces, if_neg (not_lt.mpr hcontrol), ih, Option.map_some]
      · exact hquote
      · exact fun _ _ _ _ _ hc => absurd hc hslash
      · exact fun _ _ hc => absurd hc hslash
  | short hletter _ ih =>
      have hshort := shortEscape?_eq_some_iff.mpr hletter
      rw [List.cons_append, List.cons_append, readPieces, hshort, ih]
      rintro _ _ _ _ _ rfl
      rw [shortEscape?_u] at hshort
      cases hshort
  | unit hunit _ ih =>
      simp only [List.cons_append, readPieces, hunit, ih]

end

section
variable {t w : Text} {ps : List Piece} {n m : Nat}

theorem joinPieces_unit (hhigh : isHighSurrogate n = false) (hlow : isLowSurrogate n = false) :
    joinPieces (.unit n :: ps) = (joinPieces ps).map (Char.ofNat n :: ·) := by
  cases ps with
  | nil => simp [joinPieces, hhigh, hlow]
  | cons p ps => cases p <;> simp [joinPieces, hhigh, hlow]

theorem joinPieces_pair (hhigh : isHighSurrogate n = true) (hlow : isLowSurrogate m = true) :
    joinPieces (.unit n :: .unit m :: ps) = (joinPieces ps).map (surrogatePair n m :: ·) := by
  simp [joinPieces, hhigh, hlow]

theorem Spells.exists_parts (h : Spells w t) : ∃ ps, Parts w ps ∧ joinPieces ps = some t := by
  induction h with
  | nil => exact ⟨[], .nil, rfl⟩
  | plain hcontrol hquote hslash _ ih =>
      obtain ⟨ps, hparts, hjoin⟩ := ih
      exact ⟨_, .plain hcontrol hquote hslash hparts, by rw [joinPieces, hjoin, Option.map_some]⟩
  | short hletter _ ih =>
      obtain ⟨ps, hparts, hjoin⟩ := ih
      exact ⟨_, .short hletter hparts, by rw [joinPieces, hjoin, Option.map_some]⟩
  | unit hunit hhigh hlow _ ih =>
      obtain ⟨ps, hparts, hjoin⟩ := ih
      exact ⟨_, .unit hunit hparts, by rw [joinPieces_unit hhigh hlow, hjoin, Option.map_some]⟩
  | pair hfirst hsecond hhigh hlow _ ih =>
      obtain ⟨ps, hparts, hjoin⟩ := ih
      exact ⟨_, .unit hfirst (.unit hsecond hparts),
        by rw [joinPieces_pair hhigh hlow, hjoin, Option.map_some]⟩

theorem Parts.spells (h : Parts w ps) (hjoin : joinPieces ps = some t) : Spells w t := by
  fun_induction joinPieces ps generalizing w t with
  | case1 =>
      cases h
      cases hjoin
      exact .nil
  | case2 c ps ih =>
      obtain ⟨t, htail, rfl⟩ := Option.map_eq_some_iff.mp hjoin
      cases h with
      | plain hcontrol hquote hslash h => exact .plain hcontrol hquote hslash (ih h htail)
      | short hletter h => exact .short hletter (ih h htail)
  | case3 n m ps hpair ih =>
      obtain ⟨t, htail, rfl⟩ := Option.map_eq_some_iff.mp hjoin
      obtain ⟨hhigh, hlow⟩ := Bool.and_eq_true_iff.mp hpair
      cases h with
      | unit hfirst h =>
          cases h with
          | unit hsecond h => exact .pair hfirst hsecond hhigh hlow (ih h htail)
  | case4 => cases hjoin
  | case5 n m ps _ hsingle ih =>
      obtain ⟨t, htail, rfl⟩ := Option.map_eq_some_iff.mp hjoin
      obtain ⟨hhigh, hlow⟩ := Bool.or_eq_false_iff.mp (Bool.not_eq_true _ ▸ hsingle)
      cases h with
      | unit hunit h => exact .unit hunit hhigh hlow (ih h htail)
  | case6 => cases hjoin
  | case7 n ps _ hsingle ih =>
      obtain ⟨t, htail, rfl⟩ := Option.map_eq_some_iff.mp hjoin
      obtain ⟨hhigh, hlow⟩ := Bool.or_eq_false_iff.mp (Bool.not_eq_true _ ▸ hsingle)
      cases h with
      | unit hunit h => exact .unit hunit hhigh hlow (ih h htail)

end

section
variable {t body : Text}

theorem isEmpty_skipSpace_iff : (skipSpace t).isEmpty = true ↔ ∀ c ∈ t, isJsonSpace c = true := by
  rw [List.isEmpty_iff, skipSpace, List.dropWhile_eq_nil_iff]

/-- The white space in front of a quote is passed over, and nothing else is. -/
theorem skipSpace_eq_cons_quote_iff {rest : Text} : skipSpace t = '\x22' :: rest ↔
    ∃ before, t = before ++ '\x22' :: rest ∧ ∀ c ∈ before, isJsonSpace c = true := by
  constructor
  · intro h
    refine ⟨t.takeWhile isJsonSpace, ?_, fun c hc => List.mem_takeWhile_imp hc⟩
    rw [← h, skipSpace, List.takeWhile_append_dropWhile]
  · rintro ⟨before, rfl, hspace⟩
    rw [skipSpace, List.dropWhile_append_of_pos hspace]
    rfl

/-- The reader of a literal accepts what is one, and returns the text that it denotes. -/
theorem literalText?_eq_some_iff : literalText? body = some t ↔ IsLiteral body t := by
  constructor
  · intro h
    unfold literalText? at h
    split at h
    · next rest hquote =>
        split at h
        · next contents after hread =>
            split_ifs at h with hspace
            obtain ⟨before, rfl, hbefore⟩ := skipSpace_eq_cons_quote_iff.mp hquote
            obtain ⟨⟨ps, left⟩, hpieces, heq⟩ := Option.map_eq_some_iff.mp hread
            obtain ⟨rfl, rfl⟩ := Prod.mk.inj heq
            obtain ⟨w, rfl, hparts⟩ := exists_parts_of_readPieces hpieces
            exact ⟨before, w, left, rfl, hbefore, isEmpty_skipSpace_iff.mp hspace,
              hparts.spells h⟩
        · cases h
    · cases h
  · rintro ⟨before, w, after, rfl, hbefore, hafter, hspells⟩
    obtain ⟨ps, hparts, hjoin⟩ := hspells.exists_parts
    have hquote : skipSpace (before ++ '\x22' :: (w ++ '\x22' :: after)) =
        '\x22' :: (w ++ '\x22' :: after) :=
      skipSpace_eq_cons_quote_iff.mpr ⟨before, rfl, hbefore⟩
    rw [literalText?, hquote]
    simp only [readString, hparts.readPieces_append after, Option.map_some,
      isEmpty_skipSpace_iff.mpr hafter, if_true, hjoin]

end
end HostRouting.Json
