import HostRouting.Proofs.Document.Placement

/-!
# Which sections are edited

Headers are found by their text from the top of the document, whatever section they stand
in, and the point of a router block is searched by the names of the sections that may follow.
Neither looks at the extent of a section, which indentation decides. A router block stays among
the routers exactly when their section is closed by one of these names or by the end of the
document; an edit stays within `http:` exactly when no header of the same name stands above it.
-/
namespace HostRouting
open Text SectionHeader

namespace Document

variable {d d' : Document} {e : Entity} {block : Text} {p q : Text → Bool} {start m n r : Nat}

/-- Line `n` is the first from `start` on that satisfies `p`, or it is the end and there is none. -/
structure FirstFrom (d : Document) (p : Text → Bool) (start n : Nat) : Prop where
  start_le : start ≤ n
  le_length : n ≤ d.length
  before : ∀ i l, start ≤ i → i < n → d.lines[i]? = some l → p l = false
  found : ∀ l, d.lines[n]? = some l → p l = true

theorem findLine?_firstFrom (p : Text → Bool) (h : start ≤ d.length) :
    d.FirstFrom p start ((d.findLine? p start).getD d.length) := by
  have hat : ∀ i l, start ≤ i → d.lines[i]? = some l →
      (d.lines.drop start)[i - start]? = some l := by
    intro i l hi hl
    rwa [List.getElem?_drop, Nat.add_sub_cancel' hi]
  cases hf : (d.lines.drop start).findIdx? p with
  | none =>
      rw [List.findIdx?_eq_none_iff] at hf
      have hn : (d.findLine? p start).getD d.length = d.length := by
        simp [findLine?, List.findIdx?_eq_none_iff.mpr hf]
      rw [hn]
      refine ⟨h, le_rfl, fun i l hi _ hl => hf l (List.mem_of_getElem? (hat i l hi hl)), ?_⟩
      intro l hl
      simp [length] at hl
  | some k =>
      have hn : (d.findLine? p start).getD d.length = start + k := by simp [findLine?, hf]
      obtain ⟨hk, hp, hbefore⟩ := List.findIdx?_eq_some_iff_getElem.mp hf
      rw [List.length_drop] at hk
      rw [hn]
      refine ⟨Nat.le_add_right _ _, by simp only [length]; omega, ?_, ?_⟩
      · intro i l hi hlt hl
        obtain ⟨hlen, rfl⟩ := List.getElem?_eq_some_iff.mp (hat i l hi hl)
        simpa using hbefore (i - start) (by omega)
      · intro l hl
        have hl' := hat _ _ (Nat.le_add_right _ _) hl
        rw [Nat.add_sub_cancel_left] at hl'
        obtain ⟨_, rfl⟩ := List.getElem?_eq_some_iff.mp hl'
        exact hp

namespace FirstFrom

theorem exists_line (h : d.FirstFrom p start m) (hlt : n < m) : ∃ l, d.lines[n]? = some l :=
  ⟨_, List.getElem?_eq_getElem (hlt.trans_le h.le_length)⟩

/-- No line in front of the first one will do, nor does the end. -/
theorem le_of_found (h : d.FirstFrom p start m) (hn : start ≤ n)
    (hfound : ∀ l, d.lines[n]? = some l → p l = true) : m ≤ n := by
  by_contra hlt
  obtain ⟨l, hl⟩ := h.exists_line (not_le.mp hlt)
  have hbefore := h.before n l hn (not_le.mp hlt) hl
  rw [hfound l hl] at hbefore
  cases hbefore

/-- A condition that holds more often is met no later. -/
theorem le_of_imp (hm : d.FirstFrom p start m) (hn : d.FirstFrom q start n)
    (hpq : ∀ l, p l = true → q l = true) : n ≤ m :=
  hn.le_of_found hm.start_le fun l hl => hpq l (hm.found l hl)

/-- The first line of one condition does not lie behind that of another exactly when the latter
satisfies both. -/
theorem le_iff_found (hm : d.FirstFrom p start m) (hn : d.FirstFrom q start n)
    (hpq : ∀ l, p l = true → q l = true) : m ≤ n ↔ ∀ l, d.lines[n]? = some l → p l = true := by
  constructor
  · intro hle
    rw [Nat.le_antisymm (hm.le_of_imp hn hpq) hle]
    exact hm.found
  · exact hm.le_of_found hn.start_le

theorem le_iff_between (hm : d.FirstFrom p start m) (hn : d.FirstFrom q start n) :
    m ≤ n ↔ ∀ i l, start ≤ i → i < m → d.lines[i]? = some l → q l = false := by
  constructor
  · intro hle i l hi hlt hl
    exact hn.before i l hi (hlt.trans_le hle) hl
  · intro hbetween
    by_contra hlt
    obtain ⟨l, hl⟩ := hm.exists_line (not_le.mp hlt)
    have hoff := hbetween n l hn.start_le (not_le.mp hlt) hl
    rw [hn.found l hl] at hoff
    cases hoff

end FirstFrom

/-- The header stands on line `i`. -/
def HeaderAt (d : Document) (h : SectionHeader) (i : Nat) : Prop :=
  ∃ l, d.lines[i]? = some l ∧ h.isOn l = true

theorem findHeader?_eq_some_iff_headerAt {h : SectionHeader} :
    d.findHeader? h 0 = some n ↔ d.HeaderAt h n ∧ ∀ i < n, ¬ d.HeaderAt h i := by
  have hf : d.findHeader? h 0 = d.lines.findIdx? h.isOn := by simp [findHeader?, findLine?]
  rw [hf, List.findIdx?_eq_some_iff_getElem]
  constructor
  · intro hfirst
    obtain ⟨hn, ho, hbefore⟩ := hfirst
    refine ⟨⟨_, List.getElem?_eq_getElem hn, ho⟩, fun i hi hat => ?_⟩
    obtain ⟨l, hl, hon⟩ := hat
    obtain ⟨_, rfl⟩ := List.getElem?_eq_some_iff.mp hl
    exact hbefore i hi hon
  · intro hfirst
    obtain ⟨⟨l, hl, ho⟩, hbefore⟩ := hfirst
    obtain ⟨hn, rfl⟩ := List.getElem?_eq_some_iff.mp hl
    exact ⟨hn, ho, fun i hi hon => hbefore i hi ⟨_, List.getElem?_eq_getElem _, hon⟩⟩

theorem HeaderAt.lt_length {h : SectionHeader} (hn : d.HeaderAt h n) : n < d.length := by
  obtain ⟨l, hl, -⟩ := hn
  exact (List.getElem?_eq_some_iff.mp hl).1

theorem insertionPoint_firstFrom (hr : r < d.length) :
    d.FirstFrom closesRouters (r + 1) (d.insertionPoint r routerSuccessors) :=
  findLine?_firstFrom closesRouters hr

theorem sectionEnd_firstFrom {h : SectionHeader} (hr : d.HeaderAt h r) :
    d.FirstFrom (isShallow h.indent) (r + 1) (d.sectionEnd r) := by
  have hlt : r < d.length := hr.lt_length
  obtain ⟨l, hl, ho⟩ := hr
  have hi : (d.lines[r]?.map indentOf).getD 0 = h.indent := by simp [hl, indentOf_of_isOn ho]
  rw [sectionEnd, hi]
  exact findLine?_firstFrom (isShallow h.indent) hlt

/-- The section that opens on line `r` is closed by a header that may follow routers, or by the end
of the document. -/
def ClosedBySuccessor (d : Document) (r : Nat) : Prop :=
  ∀ l, d.lines[d.sectionEnd r]? = some l → closesRouters l = true

/-- All visible lines strictly between the two are deeper than the header of routers. -/
def DeepBetween (d : Document) (r n : Nat) : Prop :=
  ∀ i l, r < i → i < n → d.lines[i]? = some l → isBlank l = false →
    SectionHeader.routers.indent < indentOf l

theorem sectionEnd_le_insertionPoint (hr : d.HeaderAt .routers r) :
    d.sectionEnd r ≤ d.insertionPoint r routerSuccessors :=
  (insertionPoint_firstFrom hr.lt_length).le_of_imp (sectionEnd_firstFrom hr)
    fun _ hl => isShallow_of_closesRouters hl

theorem insertionPoint_le_sectionEnd_iff (hr : d.HeaderAt .routers r) :
    d.insertionPoint r routerSuccessors ≤ d.sectionEnd r ↔ d.ClosedBySuccessor r :=
  (insertionPoint_firstFrom hr.lt_length).le_iff_found (sectionEnd_firstFrom hr)
    fun _ hl => isShallow_of_closesRouters hl

/-- Only deeper lines stand above a router block exactly when the section ends where it may. -/
theorem deepBetween_insertionPoint_iff (hr : d.HeaderAt .routers r) :
    d.DeepBetween r (d.insertionPoint r routerSuccessors) ↔ d.ClosedBySuccessor r := by
  have hdeep : ∀ l, isShallow SectionHeader.routers.indent l = false ↔
      (isBlank l = false → SectionHeader.routers.indent < indentOf l) := by
    intro l
    rw [isShallow_eq_false_iff, ← Bool.not_eq_false, or_iff_not_imp_left, not_not]
  rw [← insertionPoint_le_sectionEnd_iff hr,
    (insertionPoint_firstFrom hr.lt_length).le_iff_between (sectionEnd_firstFrom hr)]
  simp only [DeepBetween, hdeep, Nat.succ_le_iff]

/-- A router block is put before the first section below the found header that may follow it, never
above the end of that header's section. It lands in the section, with only deeper lines between,
if the line that closes the section is such a header or there is none. -/
theorem insertBlock_lands (h : d.insertBlock e block = .ok (.inserted d')) :
    ∃ r, d.findHeader? .routers 0 = some r ∧
      d' = d.splice (d.insertionPoint r routerSuccessors)
        (indentBlock block SectionHeader.routers.memberIndent) ∧
      d.sectionEnd r ≤ d.insertionPoint r routerSuccessors ∧
      (d.ClosedBySuccessor r → d.insertionPoint r routerSuccessors ≤ d.sectionEnd r ∧
        d.DeepBetween r (d.insertionPoint r routerSuccessors)) := by
  obtain ⟨-, r, hr, hd'⟩ := exists_findHeader?_of_insertBlock h
  have hat : d.HeaderAt .routers r := (findHeader?_eq_some_iff_headerAt.mp hr).1
  exact ⟨r, hr, hd', sectionEnd_le_insertionPoint hat, fun hc =>
    ⟨(insertionPoint_le_sectionEnd_iff hat).mpr hc, (deepBetween_insertionPoint_iff hat).mpr hc⟩⟩

/-- The rows of one router, as a caller would hand them in. -/
def sampleBlock : Text := "new:\n  rule: z\n".toList

theorem insertBlock_lands_sample : ∃ d' r,
    bareSections.insertBlock shopHost sampleBlock = .ok (.inserted d') ∧
      bareSections.findHeader? .routers 0 = some r ∧
      bareSections.DeepBetween r (bareSections.insertionPoint r routerSuccessors) := by
  obtain ⟨d', h⟩ : ∃ d', bareSections.insertBlock shopHost sampleBlock = .ok (.inserted d') :=
    ⟨_, rfl⟩
  obtain ⟨r, hr, -, -, hclosed⟩ := insertBlock_lands h
  obtain rfl : 1 = r := Option.some.inj (Eq.trans (by decide) hr)
  refine ⟨d', 1, h, hr, (hclosed ?_).2⟩
  intro l hl
  obtain rfl : "  services:".toList = l := Option.some.inj (Eq.trans (by decide) hl)
  decide

/-- Routers with a remark between them that is no deeper than their header. -/
def remarkedRouters : Document :=
  ⟨["http:", "  routers:", "    a:", "      rule: x", "# main site", "    b:", "      rule: y",
    "  services:"].map String.toList⟩

/-- Routers of `http:` and below them those of `tcp:`. -/
def httpAboveTcp : Document :=
  ⟨["http:", "  routers:", "    a:", "      rule: x", "tcp:", "  routers:", "    t:",
    "      rule: y"].map String.toList⟩

/-- A router block may land behind the end of the section, and in the section of another header. -/
theorem insertBlock_lands_behind_section :
    (∃ d', remarkedRouters.insertBlock shopHost sampleBlock = .ok (.inserted d') ∧
      remarkedRouters.findHeader? .routers 0 = some 1 ∧ remarkedRouters.sectionEnd 1 = 4 ∧
      remarkedRouters.insertionPoint 1 routerSuccessors = 7 ∧ ¬ remarkedRouters.DeepBetween 1 7) ∧
    ∃ d', httpAboveTcp.insertBlock shopHost sampleBlock = .ok (.inserted d') ∧
      httpAboveTcp.findHeader? .routers 0 = some 1 ∧ httpAboveTcp.sectionEnd 1 = 4 ∧
      httpAboveTcp.insertionPoint 1 routerSuccessors = 8 ∧ ¬ httpAboveTcp.DeepBetween 1 8 := by
  refine ⟨⟨_, rfl, by decide, by decide, by decide, fun h => ?_⟩,
    _, rfl, by decide, by decide, by decide, fun h => ?_⟩
  · exact absurd (h 4 "# main site".toList (by decide) (by decide) (by decide) (by decide))
      (by decide)
  · exact absurd (h 4 "tcp:".toList (by decide) (by decide) (by decide) (by decide)) (by decide)

/-- Line `n` lies in the section that the header on line `p` opens. -/
structure InSection (d : Document) (p n : Nat) : Prop where
  below : p < n
  above_end : n < d.sectionEnd p

/-- A header that stands in a section is found there exactly when it does not stand above the
section already. -/
theorem inSection_findHeader?_iff {outer h : SectionHeader} {p : Nat}
    (hne : h.indent ≠ outer.indent) (hp : d.HeaderAt outer p)
    (hin : ∃ i, d.InSection p i ∧ d.HeaderAt h i) :
    ∃ n, d.findHeader? h 0 = some n ∧ (d.InSection p n ↔ ∀ i < p, ¬ d.HeaderAt h i) := by
  obtain ⟨i, hi, hon⟩ := hin
  have hexists : ∃ n, d.findHeader? h 0 = some n := by
    obtain ⟨l, hl, ho⟩ := hon
    exact exists_findHeader?_iff.mpr ⟨l, List.mem_of_getElem? hl, ho⟩
  obtain ⟨n, hn⟩ := hexists
  obtain ⟨hat, hfirst⟩ := findHeader?_eq_some_iff_headerAt.mp hn
  have hle : n ≤ i := not_lt.mp fun hlt => hfirst i hlt hon
  have hnp : n ≠ p := by
    rintro rfl
    obtain ⟨l, hl, ho⟩ := hat
    obtain ⟨l', hl', ho'⟩ := hp
    obtain rfl : l = l' := Option.some.inj (hl.symm.trans hl')
    exact hne ((indentOf_of_isOn ho).symm.trans (indentOf_of_isOn ho'))
  refine ⟨n, hn, fun hsection j hj => hfirst j (hj.trans hsection.below), fun habove => ?_⟩
  have hbelow : ¬ n < p := fun hlt => habove n hlt hat
  exact ⟨by omega, hle.trans_lt hi.above_end⟩

/-- Where the first `http:` section has routers or services of its own, an edit goes under a header
of that name, which lies in that section if none stands above it. -/
theorem edits_within_http {p : Nat} (hp : d.findHeader? .http 0 = some p) :
    ((∃ i, d.InSection p i ∧ d.HeaderAt .routers i) → ∃ n,
      (∀ e block, d.contains e.marker = false → d.insertBlock e block =
        .ok (.inserted (d.splice (d.insertionPoint n routerSuccessors)
          (indentBlock block SectionHeader.routers.memberIndent)))) ∧
      d.findHeader? .routers 0 = some n ∧
        ((∀ i < p, ¬ d.HeaderAt .routers i) → d.InSection p n)) ∧
    ((∃ i, d.InSection p i ∧ d.HeaderAt .services i) → ∃ n,
      (∀ block, d.insertServiceBlock block = .ok (d.splice (d.sectionEnd n)
          (indentBlock block SectionHeader.services.memberIndent))) ∧
      d.findHeader? .services 0 = some n ∧
        ((∀ i < p, ¬ d.HeaderAt .services i) → d.InSection p n)) := by
  have hat : d.HeaderAt .http p := (findHeader?_eq_some_iff_headerAt.mp hp).1
  constructor
  · intro hin
    obtain ⟨n, hn, hiff⟩ := inSection_findHeader?_iff (by decide) hat hin
    exact ⟨n, fun e block hm => insertBlock_of_findHeader? hm hn block, hn, hiff.mpr⟩
  · intro hin
    obtain ⟨n, hn, hiff⟩ := inSection_findHeader?_iff (by decide) hat hin
    exact ⟨n, fun block => insertServiceBlock_of_findHeader? hn block, hn, hiff.mpr⟩

theorem edits_within_http_sample : ∃ d' d'',
    bareSections.insertBlock shopHost sampleBlock = .ok (.inserted d') ∧
      bareSections.insertServiceBlock sampleBlock = .ok d'' ∧
      ∃ n m, bareSections.findHeader? .routers 0 = some n ∧ bareSections.InSection 0 n ∧
        bareSections.findHeader? .services 0 = some m ∧ bareSections.InSection 0 m := by
  have hp : bareSections.findHeader? .http 0 = some 0 := by decide
  have hend : bareSections.sectionEnd 0 = 3 := by decide
  have hin : ∀ i, 0 < i → i < 3 → bareSections.InSection 0 i :=
    fun i hi hlt => ⟨hi, by rwa [hend]⟩
  obtain ⟨hrouters, hservices⟩ := edits_within_http hp
  obtain ⟨n, hn, hfound, hinside⟩ := hrouters ⟨1, hin 1 (by decide) (by decide), _, rfl, by decide⟩
  obtain ⟨m, hm, hfound', hinside'⟩ :=
    hservices ⟨2, hin 2 (by decide) (by decide), _, rfl, by decide⟩
  exact ⟨_, _, hn shopHost sampleBlock (by decide), hm sampleBlock, n, m, hfound,
    hinside (by simp), hfound', hinside' (by simp)⟩

/-- Sections of `tcp:` above those of `http:`. -/
def tcpAboveHttp : Document :=
  ⟨["tcp:", "  routers:", "    t:", "      rule: y", "  services:", "    s: \x7b\x7d", "http:",
    "  routers:", "    a:", "      rule: x", "  services:", "    b: \x7b\x7d"].map String.toList⟩

/-- Both sections of `http:` are there, and both edits go under the headers of `tcp:`. -/
theorem edits_leave_http :
    tcpAboveHttp.findHeader? .http 0 = some 6 ∧
    (tcpAboveHttp.InSection 6 7 ∧ tcpAboveHttp.HeaderAt .routers 7 ∧
      tcpAboveHttp.findHeader? .routers 0 = some 1 ∧ ¬ tcpAboveHttp.InSection 6 1 ∧
      tcpAboveHttp.insertBlock shopHost sampleBlock =
        .ok (.inserted (tcpAboveHttp.splice 4 (indentBlock sampleBlock 4)))) ∧
    tcpAboveHttp.InSection 6 10 ∧ tcpAboveHttp.HeaderAt .services 10 ∧
      tcpAboveHttp.findHeader? .services 0 = some 4 ∧ ¬ tcpAboveHttp.InSection 6 4 ∧
      tcpAboveHttp.insertServiceBlock sampleBlock =
        .ok (tcpAboveHttp.splice 6 (indentBlock sampleBlock 4)) := by
  have hend : tcpAboveHttp.sectionEnd 6 = 12 := by decide
  have hin : ∀ i, 6 < i → i < 12 → tcpAboveHttp.InSection 6 i :=
    fun i hi hlt => ⟨hi, by rwa [hend]⟩
  refine ⟨by decide, ⟨hin 7 (by decide) (by decide), ⟨_, rfl, by decide⟩, by decide,
    fun h => absurd h.below (by decide), rfl⟩, hin 10 (by decide) (by decide), ⟨_, rfl, by decide⟩,
    by decide, fun h => absurd h.below (by decide), rfl⟩

end Document
end HostRouting
