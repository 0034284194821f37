import HostRouting.Proofs.Document.Reading

/-!
# Bindings by sections and segments

The services of a document can be told without a reader that goes from line to line. A header of
services opens a section that reaches to the next visible line no deeper than the header, and its
members divide the section into segments. A segment gives a binding by its first line and the last
server below it, and nothing outside of the segment matters to it. The reader agrees with this
because it says what a segment gives when the segment is over: at the next member, at the
line that closes the section, or at the end of the document.
-/
namespace HostRouting
open Text

/-- A member line of a section, and the lines below it that are its own. -/
structure ServiceSegment where
  first : Text
  later : List Text
  deriving DecidableEq, Repr

/-- A visible line one step deeper than the header of its section. -/
def isMember (h : Nat) (line : Text) : Bool := !isBlank line && indentOf line == h + 2

/-- The segments of a section whose header is indented by `h`. -/
def segments (h : Nat) : List Text → List ServiceSegment
  | [] => []
  | line :: rest =>
    if isMember h line then ⟨line, rest.takeWhile (!isMember h ·)⟩ :: segments h rest
    else segments h rest

/-- The segments of all sections of services, read from outside of any. -/
def sectionedSegments : List Text → List ServiceSegment
  | [] => []
  | line :: rest =>
    if trim line = "services:".toList then
      segments (indentOf line) (rest.takeWhile (!isShallow (indentOf line) ·)) ++
        sectionedSegments (rest.dropWhile (!isShallow (indentOf line) ·))
    else sectionedSegments rest
  termination_by lines => lines.length
  decreasing_by
  · exact Nat.lt_succ_of_le (List.dropWhile_sublist _).length_le
  · exact Nat.lt_succ_self _

/-- The text is the value, or the value in quotes if it begins and ends with the same one. -/
def Unquotes (t value : Text) : Prop :=
  (∃ q ∈ ['\x22', '\x27'], t = q :: value ++ [q]) ∨
    value = t ∧ ∀ q ∈ ['\x22', '\x27'], ∀ u, t ≠ q :: u ++ [q]

namespace ServiceSegment

variable {s : ServiceSegment} {b : ServiceBinding}

/-- The line gives the target of a server. -/
def IsServer (line target : Text) : Prop :=
  ∃ value, trim line = "- url:".toList ++ value ∧ Unquotes (trim value) target

/-- The first line names the binding, and the last server of the segment is its target. -/
structure Gives (s : ServiceSegment) (b : ServiceBinding) : Prop where
  named : trim s.first = b.name ++ [':']
  name_ne_nil : b.name ≠ []
  unreserved : ∀ key ∈ reservedKeys, ¬ key <:+: trim s.first
  served : ∃ above line below, s.later = above ++ line :: below ∧ IsServer line b.target ∧
    ∀ l ∈ below, ¬ "- url:".toList <+: trim l

/-- The binding that a segment gives. -/
def binding? (s : ServiceSegment) : Option ServiceBinding :=
  (serviceName? (trim s.first)).bind fun name =>
    (s.later.reverse.findSome? fun l => serverUrl? (trim l)).map fun target => ⟨name, target⟩

end ServiceSegment

theorem serviceName?_eq_some_iff {t name : Text} : serviceName? t = some name ↔
    t = name ++ [':'] ∧ name ≠ [] ∧ ∀ key ∈ reservedKeys, ¬ key <:+: t := by
  constructor
  · intro h
    obtain rfl : t = name ++ [':'] := eq_append_of_serviceName? h
    rw [serviceName?_append] at h
    exact ⟨rfl, by simpa [occursIn_iff_isInfix] using h⟩
  · rintro ⟨rfl, hne, hkeys⟩
    rw [serviceName?_append]
    simpa [occursIn_iff_isInfix, hne] using hkeys

theorem unquote_quoted {q : Char} (hq : q ∈ ['\x22', '\x27']) (value : Text) :
    unquote (q :: value ++ [q]) = value := by
  have hquote : (q = '\x22' || q = '\x27') = true := by simpa using hq
  rw [List.cons_append, unquote, hquote, List.getLast?_concat, List.dropLast_concat]
  simp

theorem exists_quoted_of_unquote_ne {t : Text} (h : unquote t ≠ t) :
    ∃ q ∈ ['\x22', '\x27'], t = q :: unquote t ++ [q] := by
  cases t with
  | nil => exact absurd rfl h
  | cons q rest =>
      by_cases hq : (q = '\x22' || q = '\x27') && rest.getLast? == some q
      · have hrest : unquote (q :: rest) = rest.dropLast := if_pos hq
        simp only [Bool.and_eq_true, Bool.or_eq_true, decide_eq_true_eq, beq_iff_eq] at hq
        refine ⟨q, by simpa using hq.1, ?_⟩
        rw [hrest, List.cons_append, List.dropLast_append_getLast? q hq.2]
      · exact absurd (if_neg hq) h

theorem unquotes_iff {t value : Text} : Unquotes t value ↔ unquote t = value := by
  constructor
  · rintro (⟨q, hq, rfl⟩ | ⟨rfl, hbare⟩)
    · exact unquote_quoted hq value
    · by_contra hne
      obtain ⟨q, hq, ht⟩ := exists_quoted_of_unquote_ne hne
      exact hbare q hq _ ht
  · rintro rfl
    by_cases hquoted : ∃ q ∈ ['\x22', '\x27'], ∃ u, t = q :: u ++ [q]
    · obtain ⟨q, hq, u, rfl⟩ := hquoted
      exact .inl ⟨q, hq, by rw [unquote_quoted hq]⟩
    · refine .inr ⟨?_, fun q hq u ht => hquoted ⟨q, hq, u, ht⟩⟩
      by_contra hne
      obtain ⟨q, hq, ht⟩ := exists_quoted_of_unquote_ne hne
      exact hquoted ⟨q, hq, _, ht⟩

theorem serverUrl?_eq_some_iff {line target : Text} :
    serverUrl? (trim line) = some target ↔ ServiceSegment.IsServer line target := by
  simp only [serverUrl?, Option.map_eq_some_iff, List.isPrefixOf?_eq_some_iff_append_eq,
    ServiceSegment.IsServer, unquotes_iff]
  exact exists_congr fun value => and_congr_left fun _ => eq_comm

theorem serverUrl?_eq_none_iff {t : Text} : serverUrl? t = none ↔ ¬ "- url:".toList <+: t := by
  rw [serverUrl?, Option.map_eq_none_iff, ← Option.not_isSome_iff_eq_none]
  refine not_congr ?_
  rw [Option.isSome_iff_exists]
  simp only [List.isPrefixOf?_eq_some_iff_append_eq]
  rfl

/-- The target found from the end is that of the last server. -/
theorem findSome?_reverse_serverUrl?_iff {lines : List Text} {target : Text} :
    (lines.reverse.findSome? fun l => serverUrl? (trim l)) = some target ↔
      ∃ above line below, lines = above ++ line :: below ∧ ServiceSegment.IsServer line target ∧
        ∀ l ∈ below, ¬ "- url:".toList <+: trim l := by
  simp only [← serverUrl?_eq_none_iff, ← serverUrl?_eq_some_iff]
  rw [List.findSome?_eq_some_iff]
  constructor
  · rintro ⟨below, line, above, hlines, hline, hbelow⟩
    refine ⟨above.reverse, line, below.reverse, ?_, hline, by simpa using hbelow⟩
    simpa using congrArg List.reverse hlines
  · rintro ⟨above, line, below, hlines, hline, hbelow⟩
    exact ⟨below.reverse, line, above.reverse, by simp [hlines], hline, by simpa using hbelow⟩

theorem ServiceSegment.binding?_eq_some_iff {s : ServiceSegment} {b : ServiceBinding} :
    s.binding? = some b ↔ s.Gives b := by
  constructor
  · intro h
    obtain ⟨name, hname, htarget⟩ := Option.bind_eq_some_iff.mp h
    obtain ⟨target, hserver, rfl⟩ := Option.map_eq_some_iff.mp htarget
    obtain ⟨hnamed, hne, hkeys⟩ := serviceName?_eq_some_iff.mp hname
    exact ⟨hnamed, hne, hkeys, findSome?_reverse_serverUrl?_iff.mp hserver⟩
  · intro h
    have hname : serviceName? (trim s.first) = some b.name :=
      serviceName?_eq_some_iff.mpr ⟨h.named, h.name_ne_nil, h.unreserved⟩
    have htarget := findSome?_reverse_serverUrl?_iff.mpr h.served
    rw [binding?, hname, Option.bind_some, htarget, Option.map_some]

namespace BindingState

variable {state : BindingState} {h : Nat} {line : Text} {lines : List Text}

/-- What is said when the lines of the open body are over. -/
def closing (state : BindingState) (h : Nat) (lines : List Text) : Option ServiceBinding :=
  (state.after (lines.takeWhile (!isMember h ·))).pending

theorem step_of_isMember (hs : state.header? = some h) (hl : isMember h line = true) :
    state.step line = (member h (trim line), state.pending) := by
  simp only [isMember, Bool.and_eq_true, Bool.not_eq_true', beq_iff_eq] at hl
  exact step_of_member hs hl.1 hl.2

/-- A line inside a section that is no member of it. -/
structure OfBody (h : Nat) (line : Text) : Prop where
  not_member : isMember h line = false
  not_shallow : isShallow h line = false

theorem OfBody.step (hl : OfBody h line) (hs : state.header? = some h) :
    state.step line = (deeper (trim line) state, none) := by
  cases hb : isBlank line with
  | true =>
      have hurl : serverUrl? (trim line) = none := by
        rw [(trim_eq_nil_iff line).mpr hb]
        decide
      rw [step_of_isBlank state hb, deeper_of_none hurl]
  | false =>
      have hlt : h < indentOf line := by simpa [isShallow, hb] using hl.not_shallow
      exact step_of_deeper hs hb hlt (by simpa [isMember, hb, nestWidth] using hl.not_member)

theorem after_inServices (hl : ∀ l ∈ lines, OfBody h l) :
    (inServices h).after lines = inServices h := by
  induction lines with
  | nil => rfl
  | cons line rest ih =>
      rw [after_cons, (hl line List.mem_cons_self).step rfl]
      exact ih fun l hmem => hl l (List.mem_cons_of_mem _ hmem)

theorem after_inBody (name : Text) (target : Option Text) (hl : ∀ l ∈ lines, OfBody h l) :
    (inBody h name target).after lines =
      inBody h name ((lines.reverse.findSome? fun l => serverUrl? (trim l)).or target) := by
  induction lines generalizing target with
  | nil => rfl
  | cons line rest ih =>
      rw [after_cons, (hl line List.mem_cons_self).step rfl, List.reverse_cons,
        List.findSome?_append, Option.or_assoc]
      simpa [deeper] using ih _ fun l hmem => hl l (List.mem_cons_of_mem _ hmem)

/-- The body that a member opens gives what its segment gives. -/
theorem pending_after_member (first : Text) (hl : ∀ l ∈ lines, OfBody h l) :
    ((member h (trim first)).after lines).pending = (ServiceSegment.mk first lines).binding? := by
  unfold member ServiceSegment.binding?
  cases hname : serviceName? (trim first) with
  | none => exact congrArg pending (after_inServices hl)
  | some name =>
      dsimp only
      rw [after_inBody name none hl, Option.or_none, Option.bind_some]
      cases lines.reverse.findSome? fun l => serverUrl? (trim l) <;> rfl

/-- Down to the next member all lines of a section are of one body. -/
theorem ofBody_of_mem_takeWhile (hdeep : ∀ l ∈ lines, isShallow h l = false) :
    ∀ l ∈ lines.takeWhile (!isMember h ·), OfBody h l :=
  fun l hl => ⟨by simpa using List.mem_takeWhile_imp hl,
    hdeep l ((List.takeWhile_sublist _).subset hl)⟩

/-- Inside a section the reader says what the open body gives, then what the segments give, and goes
on outside with the line that closes the section. -/
theorem scan_section (hs : state.header? = some h) (hdeep : ∀ l ∈ lines, isShallow h l = false)
    {rest : List Text} (hrest : ∀ l ∈ rest.head?, isShallow h l = true) :
    state.scan (lines ++ rest) = (state.closing h lines).toList ++
      (segments h lines).filterMap ServiceSegment.binding? ++ outside.scan rest := by
  induction lines generalizing state with
  | nil =>
      cases rest with
      | nil => simp [scan, closing, after, segments, pending]
      | cons line more =>
          rw [List.nil_append, scan, step_of_isShallow hs (hrest line rfl)]
          simp [closing, after, segments, scan, step, pending]
  | cons line more ih =>
      have hline : isShallow h line = false := hdeep line List.mem_cons_self
      have hmore : ∀ l ∈ more, isShallow h l = false :=
        fun l hl => hdeep l (List.mem_cons_of_mem _ hl)
      rw [List.cons_append, scan, closing, segments]
      cases hmember : isMember h line with
      | true =>
          have hclosing : (member h (trim line)).closing h more =
              (ServiceSegment.mk line (more.takeWhile (!isMember h ·))).binding? :=
            pending_after_member line (ofBody_of_mem_takeWhile hmore)
          rw [step_of_isMember hs hmember, ih (header?_member h _) hmore, hclosing, if_pos rfl,
            List.takeWhile_cons_of_neg (by simp [hmember]), List.filterMap_cons]
          cases (ServiceSegment.mk line (more.takeWhile (!isMember h ·))).binding? <;> simp [after]
      | false =>
          have hstep : (state.step line).1.header? = some h := header?_step hs hline
          rw [ih hstep hmore, closing, List.takeWhile_cons_of_pos (by simp [hmember]), after_cons,
            if_neg (by simp), OfBody.step ⟨hmember, hline⟩ hs]
          rfl

/-- From outside, the reader says what the segments of all sections give. -/
theorem scan_outside_eq_sectioned (lines : List Text) :
    outside.scan lines = (sectionedSegments lines).filterMap ServiceSegment.binding? := by
  fun_induction sectionedSegments lines with
  | case1 => rfl
  | case2 line rest hheader ih =>
      have hdeep : ∀ l ∈ rest.takeWhile (!isShallow (indentOf line) ·),
          isShallow (indentOf line) l = false :=
        fun l hl => by simpa using List.mem_takeWhile_imp hl
      have hshallow := forall_head?_dropWhile_not (isShallow (indentOf line)) rest
      have hclosing : (inServices (indentOf line)).closing (indentOf line)
          (rest.takeWhile (!isShallow (indentOf line) ·)) = none := by
        rw [closing, after_inServices (ofBody_of_mem_takeWhile hdeep)]
        rfl
      have hsection : (inServices (indentOf line)).scan (_ ++ _) = _ :=
        scan_section rfl hdeep hshallow
      rw [List.takeWhile_append_dropWhile, hclosing] at hsection
      rw [scan, step, opening_of_eq hheader, List.filterMap_append, ← ih]
      exact hsection
  | case3 line rest hline ih =>
      rw [scan, step, opening_of_ne hline, ← ih]
      rfl

end BindingState

theorem filter_name_firstOfEachName (bs : List ServiceBinding) (n : Text) :
    (firstOfEachName bs).filter (·.name ≠ n) = firstOfEachName (bs.filter (·.name ≠ n)) := by
  induction bs with
  | nil => rfl
  | cons b rest ih =>
      rw [firstOfEachName]
      by_cases hb : b.name = n
      · subst hb
        rw [List.filter_cons_of_neg (by simp), List.filter_cons_of_neg (by simp), ← ih,
          List.filter_filter]
        simp only [Bool.and_self]
      · rw [List.filter_cons_of_pos (by simpa using hb),
          List.filter_cons_of_pos (by simpa using hb), firstOfEachName, ← ih, List.filter_filter,
          List.filter_filter]
        simp only [Bool.and_comm]

/-- Keeping the first of each name is erasing what repeats the name of an earlier one. -/
theorem firstOfEachName_eq_eraseDupsBy (bs : List ServiceBinding) :
    firstOfEachName bs = bs.eraseDupsBy (·.name == ·.name) := by
  induction hn : bs.length using Nat.strong_induction_on generalizing bs with
  | _ n ih =>
      cases bs with
      | nil => rfl
      | cons b rest =>
          have hlt : (rest.filter (·.name ≠ b.name)).length < n := by
            rw [← hn, List.length_cons]
            exact Nat.lt_succ_of_le (List.length_filter_le ..)
          rw [firstOfEachName, filter_name_firstOfEachName, ih _ hlt _ rfl, List.eraseDupsBy_cons]
          simp only [ne_eq, beq_eq_false_iff_ne]

theorem nodup_names_firstOfEachName (bs : List ServiceBinding) :
    ((firstOfEachName bs).map ServiceBinding.name).Nodup := by
  induction bs with
  | nil => exact List.nodup_nil
  | cons b rest ih =>
      rw [firstOfEachName, List.map_cons, List.nodup_cons]
      refine ⟨by simp, ?_⟩
      exact ih.sublist (List.filter_sublist.map _)

theorem mem_of_mem_firstOfEachName {b : ServiceBinding} {bs : List ServiceBinding}
    (h : b ∈ firstOfEachName bs) : b ∈ bs := by
  induction bs with
  | nil => cases h
  | cons c rest ih =>
      rcases List.mem_cons.mp h with rfl | hrest
      · exact List.mem_cons_self
      · exact List.mem_cons_of_mem _ (ih (List.mem_of_mem_filter hrest))

namespace Document

/-- The bindings of a document are what its segments give, in order and the first of each name: no
name comes twice, and name and target of a binding are of one segment. -/
theorem bindings_sectioned (d : Document) :
    d.bindings = ((sectionedSegments d.lines).filterMap ServiceSegment.binding?).eraseDupsBy
        (·.name == ·.name) ∧
      (∀ s b, ServiceSegment.binding? s = some b ↔ s.Gives b) ∧
      (d.bindings.map ServiceBinding.name).Nodup ∧
      ∀ b ∈ d.bindings, ∃ s ∈ sectionedSegments d.lines, s.Gives b := by
  have hscan : d.bindings =
      firstOfEachName ((sectionedSegments d.lines).filterMap ServiceSegment.binding?) := by
    rw [bindings, BindingState.scan_outside_eq_sectioned]
  refine ⟨?_, fun s b => ServiceSegment.binding?_eq_some_iff, ?_, fun b hb => ?_⟩
  · rw [hscan, firstOfEachName_eq_eraseDupsBy]
  · rw [hscan]
    exact nodup_names_firstOfEachName _
  · rw [hscan] at hb
    obtain ⟨s, hs, hgiven⟩ := List.mem_filterMap.mp (mem_of_mem_firstOfEachName hb)
    exact ⟨s, hs, ServiceSegment.binding?_eq_some_iff.mp hgiven⟩

/-- A section that another one closes, with a service of two servers, a member that names none, and
a name that comes twice. -/
def adjoiningServices : Document :=
  ⟨["http:", "  services:", "    web:", "      servers:", "        - url: http://old:80", "",
    "        - url: \x22http://web:80\x22 ", "    servers:", "        - url: http://none:80",
    "    web:", "     - url: http://late:80", "services:", "  api:", "      - url: \x27api\x27"].map
    String.toList⟩

theorem bindings_sectioned_sample :
    adjoiningServices.bindings = [⟨"web".toList, "http://web:80".toList⟩,
        ⟨"api".toList, "api".toList⟩] ∧
      ∃ s ∈ sectionedSegments adjoiningServices.lines,
        s.Gives ⟨"web".toList, "http://web:80".toList⟩ := by
  have hbindings : adjoiningServices.bindings = [⟨"web".toList, "http://web:80".toList⟩,
      ⟨"api".toList, "api".toList⟩] := by decide +kernel
  obtain ⟨-, -, -, hgiven⟩ := bindings_sectioned adjoiningServices
  refine ⟨hbindings, hgiven _ ?_⟩
  rw [hbindings]
  exact List.mem_cons_self

end Document
end HostRouting
