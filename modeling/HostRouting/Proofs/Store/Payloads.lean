import HostRouting.Proofs.Json.Literals
import HostRouting.Proofs.Text.Pieces
import HostRouting.Store.Payload

/-!
# What a payload decodes to

A body that is a string literal decodes to the text of the literal, whatever that text holds. Every
other body is trimmed, loses one pair of quotes, and is cut at its escaped line feeds. The pieces
between the cuts hold no such escape, and a line feed between two pieces cannot complete one, so
none is left in the result.
-/
namespace HostRouting
open Text

/-- A backslash and the letter that makes it a line feed. -/
def lineFeedEscape : Text := ['\\', 'n']

/-- The pieces of a text between its escaped line feeds. -/
structure IsCut (pieces : List Text) (t : Text) : Prop where
  joined : t = lineFeedEscape.intercalate pieces
  bare : ∀ piece ∈ pieces, ¬ lineFeedEscape <:+: piece

/-- The text inside one pair of quotes, or the text itself where no pair encloses it. -/
def Unquoted (t inner : Text) : Prop :=
  t = '\x22' :: (inner ++ ['\x22']) ∨ inner = t ∧ ∀ m, t ≠ '\x22' :: (m ++ ['\x22'])

section
variable {c s : Char} {t u piece : Text} {pieces : List Text}

theorem unquoted_stripQuotePair (t : Text) : Unquoted t (stripQuotePair t) := by
  unfold stripQuotePair
  split
  · next rest =>
      cases hr : ['\x22'].isSuffixOf? rest with
      | none =>
          refine .inr ⟨rfl, fun m hm => ?_⟩
          have hsuffix : ['\x22'].isSuffixOf? rest = some m :=
            List.isSuffixOf?_eq_some_iff_append_eq.mpr (List.cons.inj hm).2.symm
          rw [hr] at hsuffix
          cases hsuffix
      | some m =>
          rw [Option.getD_some, ← List.isSuffixOf?_eq_some_iff_append_eq.mp hr]
          exact .inl rfl
  · next hquote => exact .inr ⟨rfl, fun m hm => hquote _ hm⟩

/-- A character joins the first piece, unless it makes an escape with the next one. -/
theorem IsCut.cons (h : IsCut (piece :: pieces) t) (hc : ¬ lineFeedEscape <+: c :: t) :
    IsCut ((c :: piece) :: pieces) (c :: t) where
  joined := by
    rw [h.joined]
    cases pieces <;> rfl
  bare := by
    intro p hp
    rcases List.mem_cons.mp hp with rfl | hp
    · rw [List.infix_cons_iff, not_or]
      refine ⟨fun hstart => hc (hstart.trans ?_), h.bare piece List.mem_cons_self⟩
      rw [h.joined]
      cases pieces with
      | nil => simp
      | cons p ps => exact ⟨lineFeedEscape ++ lineFeedEscape.intercalate (p :: ps), by simp⟩
    · exact h.bare p (List.mem_cons_of_mem _ hp)

theorem IsCut.feed (h : IsCut (piece :: pieces) t) :
    IsCut ([] :: piece :: pieces) (lineFeedEscape ++ t) where
  joined := by rw [h.joined, List.intercalate_cons_cons, List.nil_append]
  bare := by
    intro p hp
    rcases List.mem_cons.mp hp with rfl | hp
    · exact fun hnil => absurd (List.infix_nil.mp hnil) (List.cons_ne_nil _ _)
    · exact h.bare p hp

theorem exists_isCut (t : Text) : ∃ piece pieces, IsCut (piece :: pieces) t := by
  fun_induction unescapeLineFeeds t with
  | case1 rest ih =>
      obtain ⟨piece, pieces, h⟩ := ih
      exact ⟨_, _, h.feed⟩
  | case2 c rest hc ih =>
      obtain ⟨piece, pieces, h⟩ := ih
      refine ⟨_, _, h.cons ?_⟩
      rintro ⟨tail, htail⟩
      obtain ⟨rfl, rfl⟩ := List.cons.inj htail
      exact hc tail rfl rfl
  | case3 => exact ⟨[], [], rfl, by simp [lineFeedEscape]⟩

/-- A character is kept unless it begins an escape. -/
theorem unescapeLineFeeds_cons (hc : ¬ lineFeedEscape <+: c :: t) :
    unescapeLineFeeds (c :: t) = c :: unescapeLineFeeds t := by
  rw [unescapeLineFeeds]
  rintro tail rfl rfl
  exact hc ⟨tail, rfl⟩

/-- A piece without an escape is kept in front of what does not begin with the letter of one: the
letter would stand in the piece or right behind it. -/
theorem unescapeLineFeeds_append (hpiece : ¬ lineFeedEscape <:+: piece)
    (hnext : u.head? ≠ some 'n') :
    unescapeLineFeeds (piece ++ u) = piece ++ unescapeLineFeeds u := by
  induction piece with
  | nil => rfl
  | cons c piece ih =>
      rw [List.infix_cons_iff, not_or] at hpiece
      rw [List.cons_append, unescapeLineFeeds_cons, ih hpiece.2]
      · rfl
      · rintro ⟨tail, htail⟩
        have hc : '\\' = c := (List.cons.inj htail).1
        have hletter : 'n' :: tail = piece ++ u := (List.cons.inj htail).2
        cases piece with
        | nil => exact hnext (congrArg List.head? hletter.symm)
        | cons b piece =>
            have hb : 'n' = b := (List.cons.inj hletter).1
            exact hpiece.1 ⟨piece, by rw [← hc, ← hb]; rfl⟩

/-- Whatever the pieces of a text are, they come out with line feeds between them. -/
theorem IsCut.unescapeLineFeeds_eq (h : IsCut pieces t) :
    unescapeLineFeeds t = ['\n'].intercalate pieces := by
  rw [h.joined]
  have hbare := h.bare
  clear h
  induction pieces with
  | nil => rfl
  | cons p ps ih =>
      have hp : ¬ lineFeedEscape <:+: p := hbare p List.mem_cons_self
      cases ps with
      | nil =>
          have hkept := unescapeLineFeeds_append (u := []) hp (by simp)
          simpa [unescapeLineFeeds] using hkept
      | cons q ps =>
          have htail := ih fun p hp => hbare p (List.mem_cons_of_mem _ hp)
          rw [List.intercalate_cons_cons, List.intercalate_cons_cons, List.append_assoc,
            unescapeLineFeeds_append hp (by simp [lineFeedEscape]), List.append_assoc, ← htail]
          rfl

/-- A text without the separator stands in joined pieces only where it stands in one of them. -/
theorem not_isInfix_intercalate (hs : s ∉ u) (hu : u ≠ []) (h : ∀ p ∈ pieces, ¬ u <:+: p) :
    ¬ u <:+: [s].intercalate pieces := by
  induction pieces with
  | nil => exact fun hnil => hu (List.infix_nil.mp hnil)
  | cons p ps ih =>
      have hp : ¬ u <:+: p := h p List.mem_cons_self
      cases ps with
      | nil => simpa using hp
      | cons q ps =>
          have htail := ih fun p hp => h p (List.mem_cons_of_mem _ hp)
          rw [List.intercalate_cons_cons, List.append_assoc, List.singleton_append,
            isInfix_append_cons_iff hs, not_or]
          exact ⟨hp, htail⟩

end

theorem decodePayload_of_isLiteral {body t : Text} (h : Json.IsLiteral body t) :
    decodePayload body = t := by
  rw [decodePayload, Json.literalText?_eq_some_iff.mpr h]

theorem decodePayload_of_not_isLiteral {body : Text} (h : ∀ t, ¬ Json.IsLiteral body t) :
    decodePayload body = unescapeLineFeeds (stripQuotePair (trim body)) := by
  have hnone : Json.literalText? body = none :=
    Option.eq_none_iff_forall_ne_some.mpr fun t ht => h t (Json.literalText?_eq_some_iff.mp ht)
  rw [decodePayload, hnone]

/-- A literal decodes to the text that it denotes. Any other body decodes to the pieces that its
escaped line feeds leave of it, trimmed and without one pair of quotes, with line feeds between
them, and no escaped line feed is left. -/
theorem decodePayload_exact (body : Text) :
    (∀ t, Json.IsLiteral body t → decodePayload body = t) ∧
      ((∀ t, ¬ Json.IsLiteral body t) → ∃ inner, Unquoted (trim body) inner ∧
        (∃ pieces, IsCut pieces inner) ∧
        (∀ pieces, IsCut pieces inner → decodePayload body = ['\n'].intercalate pieces) ∧
        ¬ lineFeedEscape <:+: decodePayload body) := by
  refine ⟨fun t h => decodePayload_of_isLiteral h, fun h => ?_⟩
  have hbody := decodePayload_of_not_isLiteral h
  obtain ⟨piece, pieces, hcut⟩ := exists_isCut (stripQuotePair (trim body))
  refine ⟨_, unquoted_stripQuotePair _, ⟨_, hcut⟩, fun pieces h => ?_, ?_⟩
  · rw [hbody, h.unescapeLineFeeds_eq]
  · rw [hbody, hcut.unescapeLineFeeds_eq]
    exact not_isInfix_intercalate (by decide) (List.cons_ne_nil _ _) hcut.bare

/-- A literal whose text holds an escape of its own, and a body that an unknown escape spoils. -/
theorem decodePayload_exact_sample :
    (Json.IsLiteral "\t\"a\\\\n\\ud83d\\ude00\" ".toList "a\\n😀".toList ∧
        decodePayload "\t\"a\\\\n\\ud83d\\ude00\" ".toList = "a\\n😀".toList) ∧
      (∀ t, ¬ Json.IsLiteral " \"a:\\n  b: \\q\"".toList t) ∧
      ¬ lineFeedEscape <:+: decodePayload " \"a:\\n  b: \\q\"".toList := by
  have hliteral : Json.IsLiteral "\t\"a\\\\n\\ud83d\\ude00\" ".toList "a\\n😀".toList :=
    Json.literalText?_eq_some_iff.mp (by decide)
  have hother : ∀ t, ¬ Json.IsLiteral " \"a:\\n  b: \\q\"".toList t := by
    intro t h
    have hnone : Json.literalText? " \"a:\\n  b: \\q\"".toList = none := by decide
    rw [Json.literalText?_eq_some_iff.mpr h] at hnone
    cases hnone
  obtain ⟨-, -, -, -, hclean⟩ := (decodePayload_exact " \"a:\\n  b: \\q\"".toList).2 hother
  exact ⟨⟨hliteral, (decodePayload_exact _).1 _ hliteral⟩, hother, hclean⟩

end HostRouting
