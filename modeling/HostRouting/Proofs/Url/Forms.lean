import HostRouting.Proofs.Text.Bytes
import HostRouting.Url.Form
import Mathlib.Data.List.TakeWhile

/-!
# The pairs of a query

A query in form encoding is read as its pairs: the parts between ampersands that are not empty, each
cut at its first equals sign, with plus signs as spaces and escapes as the bytes of UTF-8. A name or
a value is encoded without the two signs that separate, so a pair is read as it was written.
-/
namespace HostRouting.Url
open Text

/-- The text that a name or a value in form encoding stands for. -/
def formDecode (t : Text) : Text := ofUtf8 (unescape (replaceChar '+' ' ' t))

/-- The pair of one part of a query. A part without an equals sign is a name with an empty value. -/
def readPair (part : Text) : Text × Text :=
  match splitFirst? '=' part with
  | some (name, value) => (formDecode name, formDecode value)
  | none => (formDecode part, [])

def formPairs (query : Text) : List (Text × Text) :=
  ((query.splitOn '&').filter fun part => !part.isEmpty).map readPair

section
variable {c : Char} {b : UInt8} {rest name value : Text}

theorem hexDigit?_upperHexDigit (n : Nat) : hexDigit? (upperHexDigit n) = some (n % 16) := by
  have hdigits : ∀ d < 16, hexDigit? (Nat.digitChar d).toUpper = some d := by decide
  exact hdigits (n % 16) (Nat.mod_lt n (by decide))

theorem isAlphanum_upperHexDigit (n : Nat) : (upperHexDigit n).isAlphanum = true := by
  have hdigits : ∀ d < 16, (Nat.digitChar d).toUpper.isAlphanum = true := by decide
  exact hdigits (n % 16) (Nat.mod_lt n (by decide))

theorem unescape_escapeByte : unescape (escapeByte b ++ rest) = b :: unescape rest := by
  have hbyte : 16 * (b.toNat / 16 % 16) + b.toNat % 16 = b.toNat := by
    have hsize : b.toNat < 2 ^ 8 := b.toNat_lt
    omega
  simp only [escapeByte, List.cons_append, List.nil_append, unescape, hexDigit?_upperHexDigit,
    hbyte, UInt8.ofNat_toNat]

theorem unescape_cons (h : c ≠ '%') : unescape (c :: rest) = utf8Bytes [c] ++ unescape rest := by
  rw [unescape]
  rintro _ _ _ rfl
  exact absurd rfl h

theorem unescape_flatMap_escapeByte (bytes : List UInt8) :
    unescape (bytes.flatMap escapeByte ++ rest) = bytes ++ unescape rest := by
  induction bytes with
  | nil => rfl
  | cons b bytes ih =>
      rw [List.flatMap_cons, List.append_assoc, unescape_escapeByte, ih, List.cons_append]

/-- What stands in a form beside letters and digits: the four signs that stand for themselves, the
plus sign of a space, and the percent sign of an escape. -/
theorem mem_formChar (h : c ∈ formEncode value) : isFormChar c = true ∨ c = '+' ∨ c = '%' := by
  obtain ⟨a, -, hc⟩ := List.mem_flatMap.mp h
  unfold formChar at hc
  split_ifs at hc with hspace
  · exact .inr (.inl (List.mem_singleton.mp hc))
  · unfold escapeChar at hc
    split_ifs at hc with hescape
    · obtain ⟨b, -, hc⟩ := List.mem_flatMap.mp hc
      simp only [escapeByte, List.mem_cons, List.not_mem_nil, or_false] at hc
      rcases hc with rfl | rfl | rfl
      · exact .inr (.inr rfl)
      · exact .inl (by rw [isFormChar, isAlphanum_upperHexDigit, Bool.true_or])
      · exact .inl (by rw [isFormChar, isAlphanum_upperHexDigit, Bool.true_or])
    · rw [List.mem_singleton.mp hc]
      exact .inl (by simpa using hescape)

theorem replaceChar_eq_self {s d : Char} {t : Text} (h : s ∉ t) : replaceChar s d t = t := by
  unfold replaceChar
  refine (List.map_congr_left fun c hc => ?_).trans (List.map_id t)
  have hne : c ≠ s := fun hcs => h (hcs ▸ hc)
  exact if_neg hne

theorem plus_not_mem_escapeByte (b : UInt8) : '+' ∉ escapeByte b := by
  have hdigit : ∀ n, '+' ≠ upperHexDigit n := fun n hn => by
    have hplus := isAlphanum_upperHexDigit n
    rw [← hn] at hplus
    cases hplus
  simp [escapeByte, hdigit]

theorem unescape_formChar (c : Char) (rest : Text) :
    unescape (replaceChar '+' ' ' (formChar c) ++ rest) = utf8Bytes [c] ++ unescape rest := by
  unfold formChar
  split_ifs with hspace
  · rw [hspace]
    exact unescape_cons (by decide)
  · unfold escapeChar
    split_ifs with hescape
    · have hplus : '+' ∉ (utf8Bytes [c]).flatMap escapeByte := fun h => by
        obtain ⟨b, -, hb⟩ := List.mem_flatMap.mp h
        exact plus_not_mem_escapeByte b hb
      rw [replaceChar_eq_self hplus, unescape_flatMap_escapeByte]
    · have hform : isFormChar c = true := by simpa using hescape
      have hplus : '+' ∉ [c] := by
        rw [List.mem_singleton]
        rintro rfl
        cases hform
      have hpercent : c ≠ '%' := by
        rintro rfl
        cases hform
      rw [replaceChar_eq_self hplus, List.singleton_append, unescape_cons hpercent]

theorem formDecode_formEncode (t : Text) : formDecode (formEncode t) = t := by
  have hbytes : unescape (replaceChar '+' ' ' (formEncode t)) = utf8Bytes t := by
    induction t with
    | nil => rfl
    | cons c t ih =>
        have hcut : replaceChar '+' ' ' (formEncode (c :: t)) =
            replaceChar '+' ' ' (formChar c) ++ replaceChar '+' ' ' (formEncode t) := by
          rw [formEncode, List.flatMap_cons, replaceChar, List.map_append]
          rfl
        rw [hcut, unescape_formChar, ih, ← utf8Bytes_append, List.singleton_append]
  rw [formDecode, hbytes, ofUtf8_utf8Bytes]

theorem ampersand_not_mem_formEncode : '&' ∉ formEncode value := by
  intro h
  rcases mem_formChar h with h | h | h
  · cases h
  · cases h
  · cases h

theorem equals_not_mem_formEncode : '=' ∉ formEncode value := by
  intro h
  rcases mem_formChar h with h | h | h
  · cases h
  · cases h
  · cases h

theorem splitFirst?_append_cons (h : c ∉ name) :
    splitFirst? c (name ++ c :: value) = some (name, value) := by
  have hname : ∀ a ∈ name, decide (a ≠ c) = true :=
    fun a ha => decide_eq_true fun hac => h (hac ▸ ha)
  rw [splitFirst?, List.dropWhile_append_of_pos hname, List.takeWhile_append_of_pos hname]
  simp

/-- The query of one pair has this pair and no other. -/
theorem formPairs_formPair (name value : Text) :
    formPairs (formPair name value) = [(name, value)] := by
  have hpart : '&' ∉ formPair name value := by
    unfold formPair
    rw [List.mem_append, List.mem_cons, not_or, not_or]
    exact ⟨ampersand_not_mem_formEncode, by decide, ampersand_not_mem_formEncode⟩
  have hsome : (formPair name value).isEmpty = false := by
    unfold formPair
    cases formEncode name <;> rfl
  have hpair : readPair (formPair name value) = (name, value) := by
    unfold formPair
    rw [readPair, splitFirst?_append_cons equals_not_mem_formEncode]
    simp only [formDecode_formEncode]
  rw [formPairs, List.splitOn_eq_singleton hpart]
  simp [hsome, hpair]

/-- A pair that is added to a query comes last of its pairs. -/
theorem formPairs_appendPair (query : Option Text) (name value : Text) :
    formPairs (appendPair query name value) =
      (query.map formPairs).getD [] ++ [(name, value)] := by
  rcases query with - | ⟨- | ⟨c, q⟩⟩
  · exact formPairs_formPair name value
  · exact formPairs_formPair name value
  · have happend : formPairs ((c :: q) ++ '&' :: formPair name value) =
        formPairs (c :: q) ++ formPairs (formPair name value) := by
      rw [formPairs, List.splitOn_append_cons_self, List.filter_append, List.map_append]
      rfl
    exact happend.trans (by rw [formPairs_formPair]; rfl)

end
end HostRouting.Url
