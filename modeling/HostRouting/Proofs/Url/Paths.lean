import HostRouting.Url.Path
import Mathlib.Data.List.TakeWhile

/-!
# Paths with an endpoint at their end

A path behind which `/api/` and a plain name are written ends with them, whatever stands before.
Plain names are of letters, digits and dots, and not of dots alone: they are not escaped, they are
neither dot segments nor drive letters, and so they are pushed on the segments already done, of
which they take nothing away. Reading every other piece is a fold over those segments, as long as
it is not the last piece.
-/
namespace HostRouting.Url

/-- The letters, the digits and the dot. -/
def isPlainChar (c : Char) : Bool := c.isAlphanum || c = '.'

structure IsPlainName (name : Text) : Prop where
  plain : ∀ c ∈ name, isPlainChar c = true
  named : ∃ c ∈ name, c ≠ '.'

/-- The first segment of every endpoint. -/
def apiSegment : Text := ['a', 'p', 'i']

/-- The path of an endpoint. -/
def apiPath (name : Text) : Text := '/' :: (apiSegment ++ '/' :: name)

theorem apiPath_ne_nil (name : Text) : apiPath name ≠ [] := List.cons_ne_nil _ _

section
variable {c : Char} {t name piece : Text} {kind : SchemeKind} {pieces done rest tail : List Text}

theorem toNat_lt_of_isPlainChar (h : isPlainChar c = true) : c.toNat < 128 := by
  have hdot : '.'.toNat = 46 := rfl
  have hranges : (((decide ('A'.val ≤ c.val ∧ c.val ≤ 'Z'.val) ||
      (decide ('a'.val ≤ c.val) && decide (c.val ≤ 'z'.val))) ||
      (decide ('0'.val ≤ c.val) && decide (c.val ≤ '9'.val))) || decide (c = '.')) = true := h
  simp only [Bool.or_eq_true, Bool.and_eq_true, decide_eq_true_eq, UInt32.le_iff_toNat_le]
    at hranges
  rcases hranges with ((⟨-, hlast⟩ | ⟨-, hlast⟩) | ⟨-, hlast⟩) | rfl
  · exact Nat.lt_of_le_of_lt hlast (by decide)
  · exact Nat.lt_of_le_of_lt hlast (by decide)
  · exact Nat.lt_of_le_of_lt hlast (by decide)
  · omega

/-- There are few plain characters, so that what is said of all of them can be looked up. -/
theorem forall_isPlainChar {P : Char → Prop}
    (hall : ∀ n < 128, isPlainChar (Char.ofNat n) = true → P (Char.ofNat n))
    (h : isPlainChar c = true) : P c := by
  have hlt := toNat_lt_of_isPlainChar h
  rw [← c.ofNat_toNat] at h ⊢
  exact hall c.toNat hlt h

theorem isPathSlash_of_isPlainChar (kind : SchemeKind) :
    isPlainChar c = true → isPathSlash kind c = false :=
  forall_isPlainChar (P := fun c => isPathSlash kind c = false) (by cases kind <;> decide +kernel)

theorem escapes_of_isPlainChar :
    isPlainChar c = true → EscapeSet.path c = false ∧ EscapeSet.controls c = false :=
  forall_isPlainChar (P := fun c => EscapeSet.path c = false ∧ EscapeSet.controls c = false)
    (by decide +kernel)

theorem ne_of_isPlainChar (h : isPlainChar c = true) : c ≠ '%' ∧ c ≠ ':' ∧ c ≠ '|' := by
  refine ⟨?_, ?_, ?_⟩
  · rintro rfl
    cases h
  · rintro rfl
    cases h
  · rintro rfl
    cases h

theorem mem_apiPath (h : ∀ c ∈ name, isPlainChar c = true) (hc : c ∈ apiPath name) :
    c = '/' ∨ isPlainChar c = true := by
  have hapi : ∀ c ∈ apiSegment, isPlainChar c = true := List.all_eq_true.mp rfl
  rw [apiPath, List.mem_cons, List.mem_append, List.mem_cons] at hc
  rcases hc with rfl | hc | rfl | hc
  · exact .inl rfl
  · exact .inr (hapi c hc)
  · exact .inl rfl
  · exact .inr (h c hc)

theorem escape_eq_self {s : EscapeSet} (h : ∀ c ∈ t, s c = false) : escape s t = t := by
  induction t with
  | nil => rfl
  | cons c t ih =>
      have hc : escapeChar s c = [c] := if_neg (by simp [h c List.mem_cons_self])
      rw [escape, List.flatMap_cons, hc, ← escape, ih fun d hd => h d (List.mem_cons_of_mem c hd)]
      rfl

theorem escape_append (s : EscapeSet) (t u : Text) : escape s (t ++ u) = escape s t ++ escape s u :=
  List.flatMap_append

theorem unescapeDots_eq_self (h : '%' ∉ t) : unescapeDots t = t := by
  induction t with
  | nil => rfl
  | cons c t ih =>
      rw [List.mem_cons, not_or] at h
      rw [unescapeDots, ih h.2]
      rintro _ _ rfl
      exact absurd rfl h.1

namespace IsPlainName

theorem api : IsPlainName apiSegment where
  plain := List.all_eq_true.mp rfl
  named := ⟨'a', List.mem_cons_self, by decide⟩

variable (h : IsPlainName name)
include h

theorem ne_nil : name ≠ [] := by
  obtain ⟨c, hc, -⟩ := h.named
  exact List.ne_nil_of_mem hc

theorem unescapeDots : unescapeDots name = name :=
  unescapeDots_eq_self fun hpercent => (ne_of_isPlainChar (h.plain _ hpercent)).1 rfl

theorem isSingleDot : isSingleDot name = false := by
  obtain ⟨c, hc, hdot⟩ := h.named
  rw [Url.isSingleDot, h.unescapeDots]
  refine decide_eq_false fun hname => ?_
  rw [hname, List.mem_singleton] at hc
  exact hdot hc

theorem isDoubleDot : isDoubleDot name = false := by
  obtain ⟨c, hc, hdot⟩ := h.named
  rw [Url.isDoubleDot, h.unescapeDots]
  refine decide_eq_false fun hname => ?_
  rw [hname, List.mem_cons, List.mem_singleton, or_self] at hc
  exact hdot hc

theorem isDriveLetter : isDriveLetter name = false := by
  unfold Url.isDriveLetter
  split
  · next c d =>
      have hd := ne_of_isPlainChar (h.plain d (by simp))
      simp [hd.2.1, hd.2.2]
  · rfl

theorem escape_path : escape EscapeSet.path name = name :=
  escape_eq_self fun c hc => (escapes_of_isPlainChar (h.plain c hc)).1

theorem splitDrive_cons : splitDrive (name :: rest) = name :: rest := by
  unfold splitDrive
  split
  · next hname =>
      rw [List.cons.injEq] at hname
      have hcolon : ':' ∈ name := by simp [hname.1]
      exact absurd rfl (ne_of_isPlainChar (h.plain _ hcolon)).2.1
  · rfl

theorem segments_cons : segments kind done (name :: rest) = segments kind (name :: done) rest := by
  rw [segments, h.isDoubleDot, h.isSingleDot, h.isDriveLetter, Bool.and_false, h.escape_path]
  rfl

end IsPlainName

/-- The segments done after a piece that is not the last one. -/
def pushPiece (kind : SchemeKind) (done : List Text) (piece : Text) : List Text :=
  if isDoubleDot piece then shorten kind done
  else if isSingleDot piece then done
  else if kind = .file && done.isEmpty && isDriveLetter piece then (piece.take 1 ++ [':']) :: done
  else escape EscapeSet.path piece :: done

theorem segments_cons_of_ne_nil (h : rest ≠ []) :
    segments kind done (piece :: rest) = segments kind (pushPiece kind done piece) rest := by
  have hmore : rest.isEmpty = false := by
    rw [List.isEmpty_eq_false_iff]
    exact h
  rw [segments, hmore, pushPiece]
  simp only [Bool.false_eq_true, if_false]
  split_ifs <;> rfl

theorem segments_append (h : tail ≠ []) :
    segments kind done (pieces ++ tail) =
      segments kind (pieces.foldl (pushPiece kind) done) tail := by
  induction pieces generalizing done with
  | nil => rfl
  | cons piece pieces ih =>
      rw [List.cons_append, segments_cons_of_ne_nil (List.append_ne_nil_of_right_ne_nil pieces h),
        ih, List.foldl_cons]

theorem splitDrive_cons_append :
    splitDrive (piece :: pieces ++ tail) = splitDrive (piece :: pieces) ++ tail := by
  unfold splitDrive
  rw [List.cons_append]
  split
  · next hpiece =>
      rw [List.cons.injEq] at hpiece
      rw [hpiece.1, ← hpiece.2]
      simp only
      split_ifs <;> rfl
  · next hpiece =>
      split
      · next hsplit =>
          rw [List.cons.injEq] at hsplit
          exact absurd (by rw [hsplit.1]) (hpiece _ _ _ _)
      · rfl

theorem ofSegments_append (front back : List Text) :
    ofSegments (front ++ back) = ofSegments front ++ ofSegments back :=
  List.flatMap_append

theorem ofSegments_api (name : Text) : ofSegments [apiSegment, name] = apiPath name := by
  simp [ofSegments, apiPath]

/-- The text behind the slash at its start. -/
def afterSlash (kind : SchemeKind) : Text → Text
  | [] => []
  | c :: rest => if isPathSlash kind c then rest else c :: rest

/-- The path of the pieces between slashes. -/
def ofPieces (kind : SchemeKind) (pieces : List Text) : Text :=
  if kind = .file then ofSegments (dropLeadingEmpty (segments kind [] (splitDrive pieces)))
  else ofSegments (segments kind [] pieces)

theorem readPath_of_ne_nil (h : t ≠ []) :
    readPath kind t = ofPieces kind ((afterSlash kind t).splitOnP (isPathSlash kind)) := by
  cases t with
  | nil => exact absurd rfl h
  | cons c t => cases kind <;> rfl

theorem exists_splitDrive (name : Text) (pieces : List Text) :
    ∃ front, splitDrive (pieces ++ [apiSegment, name]) = front ++ [apiSegment, name] := by
  cases pieces with
  | nil => exact ⟨[], IsPlainName.api.splitDrive_cons⟩
  | cons piece pieces => exact ⟨_, splitDrive_cons_append⟩

theorem dropLeadingEmpty_api (name : Text) (front : List Text) :
    dropLeadingEmpty (front ++ [apiSegment, name]) =
      front.dropWhile List.isEmpty ++ [apiSegment, name] := by
  have hdrop : (front ++ [apiSegment, name]).dropWhile List.isEmpty =
      front.dropWhile List.isEmpty ++ [apiSegment, name] := by
    rw [List.dropWhile_append]
    split_ifs with hall
    · rw [List.isEmpty_iff.mp hall]
      rfl
    · rfl
  rw [dropLeadingEmpty, hdrop]
  cases front.dropWhile List.isEmpty <;> rfl

namespace IsPlainName
variable (h : IsPlainName name)
include h

theorem segments_api :
    segments kind done (pieces ++ [apiSegment, name]) =
      (pieces.foldl (pushPiece kind) done).reverse ++ [apiSegment, name] := by
  rw [segments_append (List.cons_ne_nil _ _), api.segments_cons, h.segments_cons, segments]
  simp

theorem splitOnP_eq_singleton : name.splitOnP (isPathSlash kind) = [name] :=
  List.splitOnP_eq_singleton fun c hc => isPathSlash_of_isPlainChar kind (h.plain c hc)

theorem splitOnP_api (t : Text) :
    (t ++ apiPath name).splitOnP (isPathSlash kind) =
      t.splitOnP (isPathSlash kind) ++ [apiSegment, name] := by
  have hslash : isPathSlash kind '/' = true := rfl
  rw [apiPath, List.splitOnP_append_cons _ _ hslash,
    List.splitOnP_append_cons _ _ hslash, api.splitOnP_eq_singleton, h.splitOnP_eq_singleton]
  rfl

theorem exists_pieces (kind : SchemeKind) (t : Text) :
    ∃ pieces, (afterSlash kind (t ++ apiPath name)).splitOnP (isPathSlash kind) =
      pieces ++ [apiSegment, name] := by
  cases t with
  | nil =>
      have hslash : isPathSlash kind '/' = true := rfl
      refine ⟨[], ?_⟩
      change (apiSegment ++ '/' :: name).splitOnP (isPathSlash kind) = _
      rw [List.splitOnP_append_cons _ _ hslash, api.splitOnP_eq_singleton, h.splitOnP_eq_singleton]
      rfl
  | cons c t =>
      rw [List.cons_append, afterSlash]
      split_ifs
      · exact ⟨_, h.splitOnP_api t⟩
      · exact ⟨_, h.splitOnP_api (c :: t)⟩

theorem exists_ofPieces (kind : SchemeKind) (pieces : List Text) :
    ∃ base, ofPieces kind (pieces ++ [apiSegment, name]) = base ++ apiPath name := by
  unfold ofPieces
  split_ifs with hfile
  · obtain ⟨front, hfront⟩ := exists_splitDrive name pieces
    rw [hfront, h.segments_api, dropLeadingEmpty_api, ofSegments_append, ofSegments_api]
    exact ⟨_, rfl⟩
  · rw [h.segments_api, ofSegments_append, ofSegments_api]
    exact ⟨_, rfl⟩

/-- A path keeps the endpoint that is written at its end. -/
theorem readPath_append (kind : SchemeKind) (t : Text) :
    ∃ base, readPath kind (t ++ apiPath name) = base ++ apiPath name := by
  obtain ⟨pieces, hpieces⟩ := h.exists_pieces kind t
  rw [readPath_of_ne_nil (List.append_ne_nil_of_right_ne_nil t (apiPath_ne_nil name)), hpieces]
  exact h.exists_ofPieces kind pieces

/-- So does text that is taken as a path as it is. -/
theorem escape_append_apiPath (t : Text) :
    escape EscapeSet.controls (t ++ apiPath name) =
      escape EscapeSet.controls t ++ apiPath name := by
  have hplain : ∀ c ∈ apiPath name, EscapeSet.controls c = false := by
    intro c hc
    rcases mem_apiPath h.plain hc with rfl | hc
    · rfl
    · exact (escapes_of_isPlainChar hc).2
  rw [escape_append, escape_eq_self hplain]

/-- A name alone is a path of one segment. -/
theorem readPath_name (kind : SchemeKind) : readPath kind ('/' :: name) = '/' :: name := by
  have hsegments : segments kind [] [name] = [name] := by
    rw [h.segments_cons, segments]
    rfl
  have hsome : dropLeadingEmpty [name] = [name] := by
    have hne := h.ne_nil
    cases name with
    | nil => exact absurd rfl hne
    | cons c name => rfl
  have hpath : ofSegments [name] = '/' :: name := by simp [ofSegments]
  have hslash : isPathSlash kind '/' = true := rfl
  rw [readPath_of_ne_nil (List.cons_ne_nil _ _), afterSlash, if_pos hslash,
    h.splitOnP_eq_singleton, ofPieces, h.splitDrive_cons, hsegments, hsome, hpath, ite_self]

end IsPlainName
end
end HostRouting.Url
