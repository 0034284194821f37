import HostRouting.Proofs.Document.Ownership

/-!
# Where blocks are inserted

A position is found by reading the lines from the top: first those before the header,
then its section, then everything from the first line that closes the section on. A cut
divides the lines at that place. Lines that neither open nor close leave the phase of the
reading alone, so a block put in elsewhere, or blank lines taken out, leave a cut
where it was relative to the other lines.
-/
namespace HostRouting
open Text

/-- How far a reading of lines has come with the section it looks for. -/
inductive Phase where
  | before
  | inside
  | after
  deriving DecidableEq, Repr

section
variable (opens closes : Text → Bool)

def Phase.step : Phase → Text → Phase
  | before, line => if opens line then inside else before
  | inside, line => if closes line then after else inside
  | after, _ => after

def Phase.read (phase : Phase) (lines : List Text) : Phase :=
  lines.foldl (Phase.step opens closes) phase

/-- The lines are divided at the end of the first section that `opens` opens. -/
structure Cut (above below : List Text) : Prop where
  inside : Phase.read opens closes .before above = .inside
  closed : ∀ line ∈ below.head?, closes line = true

/-- Lines that neither open nor close a section. -/
def Neutral (lines : List Text) : Prop :=
  ∀ line ∈ lines, opens line = false ∧ closes line = false

end

section
variable {opens closes : Text → Bool} {above below lines : List Text}

namespace Phase

@[simp] theorem read_nil (phase : Phase) : read opens closes phase [] = phase := rfl

@[simp] theorem read_cons (phase : Phase) (line : Text) (rest : List Text) :
    read opens closes phase (line :: rest) =
      read opens closes (step opens closes phase line) rest := rfl

@[simp] theorem read_append (phase : Phase) (xs ys : List Text) :
    read opens closes phase (xs ++ ys) =
      read opens closes (read opens closes phase xs) ys := List.foldl_append

@[simp] theorem read_after (lines : List Text) : read opens closes .after lines = .after := by
  induction lines with
  | nil => rfl
  | cons line rest ih => exact ih

theorem read_before (h : ∀ line ∈ lines, opens line = false) :
    read opens closes .before lines = .before := by
  induction lines with
  | nil => rfl
  | cons line rest ih =>
      rw [read_cons, step, if_neg (by simp [h line List.mem_cons_self])]
      exact ih fun l hl => h l (List.mem_cons_of_mem _ hl)

theorem read_inside (h : ∀ line ∈ lines, closes line = false) :
    read opens closes .inside lines = .inside := by
  induction lines with
  | nil => rfl
  | cons line rest ih =>
      rw [read_cons, step, if_neg (by simp [h line List.mem_cons_self])]
      exact ih fun l hl => h l (List.mem_cons_of_mem _ hl)

theorem read_neutral (phase : Phase) (h : Neutral opens closes lines) :
    read opens closes phase lines = phase := by
  cases phase with
  | before => exact read_before fun l hl => (h l hl).1
  | inside => exact read_inside fun l hl => (h l hl).2
  | after => exact read_after lines

end Phase

namespace Cut

theorem of_header {line : Text} (hbefore : ∀ l ∈ above, opens l = false)
    (hline : opens line = true) (body : List Text) :
    Cut opens closes (above ++ line :: body.takeWhile (!closes ·))
      (body.dropWhile (!closes ·)) where
  inside := by
    rw [Phase.read_append, Phase.read_before hbefore, Phase.read_cons, Phase.step, if_pos hline]
    exact Phase.read_inside fun l hl => by simpa using List.mem_takeWhile_imp hl
  closed := forall_head?_dropWhile_not closes body

/-- The lines of a document are cut in one way only: the longer one of two parts above would have
read on past a closing line. -/
theorem unique {above' below' : List Text} (h : Cut opens closes above below)
    (h' : Cut opens closes above' below') (he : above ++ below = above' ++ below') :
    above = above' ∧ below = below' := by
  have stays : ∀ {a b c d : List Text}, Cut opens closes a b → Cut opens closes (a ++ c) d →
      b = c ++ d → c = [] := by
    intro a b c d hab hcd hb
    cases c with
    | nil => rfl
    | cons l c =>
        have hl := hab.closed l (by simp [hb])
        have := hcd.inside
        rw [Phase.read_append, hab.inside, Phase.read_cons, Phase.step, if_pos hl,
          Phase.read_after] at this
        cases this
  rcases List.append_eq_append_iff.mp he with ⟨c, hc, hb⟩ | ⟨c, hc, hb⟩
  · subst hc
    have := stays h h' hb
    subst this
    simpa using hb
  · subst hc
    have := stays h' h hb
    subst this
    simpa [eq_comm] using hb

theorem exists_opens (h : Cut opens closes above below) : ∃ line ∈ above, opens line = true := by
  by_contra hc
  have := h.inside
  rw [Phase.read_before (by simpa using hc)] at this
  cases this

/-- Neutral lines may be put in or taken out anywhere above the cut. -/
theorem replace_above {xs ys ns ns' : List Text} (h : Cut opens closes (xs ++ ns ++ ys) below)
    (hn : Neutral opens closes ns) (hn' : Neutral opens closes ns') :
    Cut opens closes (xs ++ ns' ++ ys) below where
  inside := by
    have := h.inside
    simpa only [Phase.read_append, Phase.read_neutral _ hn, Phase.read_neutral _ hn'] using this
  closed := h.closed

theorem replace_below {below' : List Text} (h : Cut opens closes above below)
    (hh : below'.head? = below.head?) : Cut opens closes above below' where
  inside := h.inside
  closed := by
    rw [hh]
    exact h.closed

/-- A cut does not fall into neutral lines: it lies above them or behind them. -/
theorem above_or_below {xs rows ys : List Text} (h : Cut opens closes above below)
    (he : above ++ below = xs ++ rows ++ ys) (hn : Neutral opens closes rows) :
    (∃ rest, rest ≠ [] ∧ xs = above ++ rest ∧ below = rest ++ rows ++ ys) ∨
      ∃ rest, above = xs ++ rows ++ rest ∧ ys = rest ++ below := by
  have nil_of_rows : ∀ {us vs : List Text}, rows = us ++ vs → below = vs ++ ys → vs = [] := by
    intro us vs hr hb
    cases vs with
    | nil => rfl
    | cons v vs =>
        have hv := h.closed v (by simp [hb])
        rw [(hn v (by simp [hr])).2] at hv
        cases hv
  rcases List.append_eq_append_iff.mp he with ⟨c, hc, hb⟩ | ⟨c, hc, hb⟩
  · rcases List.append_eq_append_iff.mp hc with ⟨u, hu, hr⟩ | ⟨u, hu, hr⟩
    · have := nil_of_rows hr hb
      subst this
      exact .inr ⟨[], by simpa [hr] using hu, by simpa using hb.symm⟩
    · cases u with
      | nil =>
          have := nil_of_rows (List.nil_append _).symm (by simpa [hr] using hb)
          subst this
          exact .inr ⟨[], by simpa using hu.symm, by simpa [hr] using hb.symm⟩
      | cons l u => exact .inl ⟨l :: u, by simp, hu, by rw [hb, hr]⟩
  · exact .inr ⟨c, hc, hb⟩

end Cut
end

namespace SectionHeader

theorem indentOf_of_isOn {h : SectionHeader} {line : Text} (hl : h.isOn line = true) :
    indentOf line = h.indent := by
  simp only [isOn, Bool.and_eq_true, beq_iff_eq] at hl
  exact hl.1

theorem isPrefix_of_isOn {h : SectionHeader} {line : Text} (hl : h.isOn line = true) :
    h.name ++ [':'] <+: line.drop h.indent := by
  simp only [isOn, Bool.and_eq_true] at hl
  cases hp : (h.name ++ [':']).isPrefixOf? (line.drop h.indent) with
  | none => simp [hp] at hl
  | some rest =>
      rw [List.isPrefixOf?_eq_some_iff_append_eq] at hp
      exact ⟨rest, hp⟩

theorem isBlank_of_isOn {h : SectionHeader} {line : Text} (hl : h.isOn line = true) :
    isBlank line = false := by
  apply not_isBlank_of_mem (c := ':') _ (by decide)
  exact List.mem_of_mem_drop ((isPrefix_of_isOn hl).subset (by simp))

theorem services_isOn_of_routers {line : Text} (hl : SectionHeader.routers.isOn line = true) :
    SectionHeader.services.isOn line = false := by
  rw [Bool.eq_false_iff]
  intro hs
  obtain ⟨t, ht⟩ := isPrefix_of_isOn hl
  obtain ⟨u, hu⟩ := isPrefix_of_isOn hs
  have hhead : some 'r' = some 's' := congrArg List.head? (ht.trans hu.symm)
  exact absurd hhead (by decide)

theorem isShallow_of_isOn {h : SectionHeader} {n : Nat} (hn : h.indent ≤ n) {line : Text}
    (hl : h.isOn line = true) : isShallow n line = true := by
  rw [isShallow, isBlank_of_isOn hl, indentOf_of_isOn hl]
  simpa using hn

/-- The line is a header that may follow `routers:`. -/
def closesRouters (line : Text) : Bool := routerSuccessors.any (·.isOn line)

theorem isShallow_of_closesRouters {line : Text} (h : closesRouters line = true) :
    isShallow 2 line = true := by
  obtain ⟨s, hs, hl⟩ := List.any_eq_true.mp h
  have hi : ∀ s ∈ routerSuccessors, s.indent ≤ 2 := by decide
  exact isShallow_of_isOn (hi s hs) hl

end SectionHeader

namespace Document
open SectionHeader

variable {d : Document} {above below : List Text}

theorem findLine?_getD (p : Text → Bool) (h : d.lines = above ++ below) :
    (d.findLine? p above.length).getD d.length =
      above.length + (below.takeWhile (!p ·)).length := by
  have hlen : (below.takeWhile (!p ·)).length = below.findIdx p := by
    rw [List.takeWhile_eq_take_findIdx_not]
    simp [List.findIdx_le_length]
  rw [hlen, List.findIdx_eq_getD_findIdx?, findLine?, h, List.drop_left, length, h,
    List.length_append]
  cases below.findIdx? p <;> rfl

theorem findHeader?_eq_some_iff {h : SectionHeader} {n : Nat} :
    d.findHeader? h 0 = some n ↔ ∃ above line below, d.lines = above ++ line :: below ∧
      above.length = n ∧ h.isOn line = true ∧ ∀ l ∈ above, h.isOn l = false := by
  have hf : d.findHeader? h 0 = d.lines.findIdx? h.isOn := by
    simp [findHeader?, findLine?]
  rw [hf, List.findIdx?_eq_some_iff_getElem]
  constructor
  · rintro ⟨hn, hl, hb⟩
    refine ⟨d.lines.take n, d.lines[n], d.lines.drop (n + 1), ?_, ?_, hl, ?_⟩
    · rw [List.getElem_cons_drop, List.take_append_drop]
    · rw [List.length_take]
      omega
    · intro l hl
      obtain ⟨i, hi, rfl⟩ := List.getElem_of_mem hl
      rw [List.length_take] at hi
      simpa using hb i (by omega)
  · rintro ⟨above, line, below, hd, rfl, hl, hb⟩
    refine ⟨by simp [hd], by simpa [hd] using hl, ?_⟩
    intro j hj
    simpa [hd, List.getElem_append_left hj] using hb above[j] (List.getElem_mem hj)

theorem findHeader?_eq_none_iff {h : SectionHeader} :
    d.findHeader? h 0 = none ↔ ∀ l ∈ d.lines, h.isOn l = false := by
  simp [findHeader?, findLine?, List.findIdx?_eq_none_iff]

theorem exists_findHeader?_iff {h : SectionHeader} :
    (∃ n, d.findHeader? h 0 = some n) ↔ ∃ l ∈ d.lines, h.isOn l = true := by
  rw [← Option.ne_none_iff_exists', ne_eq, findHeader?_eq_none_iff]
  simp

theorem insertionPoint_of_header {line : Text} (hd : d.lines = above ++ line :: below) :
    d.insertionPoint above.length routerSuccessors =
      above.length + 1 + (below.takeWhile (!closesRouters ·)).length := by
  have hd' : d.lines = (above ++ [line]) ++ below := by simp [hd]
  have := findLine?_getD closesRouters hd'
  rw [List.length_append, List.length_singleton] at this
  exact this

theorem sectionEnd_of_header {h : SectionHeader} {line : Text}
    (hd : d.lines = above ++ line :: below) (hl : h.isOn line = true) :
    d.sectionEnd above.length =
      above.length + 1 + (below.takeWhile (!isShallow h.indent ·)).length := by
  have hd' : d.lines = (above ++ [line]) ++ below := by simp [hd]
  have hi : (d.lines[above.length]?.map indentOf).getD 0 = h.indent := by
    simp [hd, indentOf_of_isOn hl]
  have := findLine?_getD (isShallow h.indent) hd'
  rw [List.length_append, List.length_singleton] at this
  rw [sectionEnd, hi]
  exact this

/-- The found position of a router block cuts the lines at the end of the routers. -/
theorem cut_insertionPoint {n : Nat} (hn : d.findHeader? .routers 0 = some n) :
    ∃ above below, d.lines = above ++ below ∧
      above.length = d.insertionPoint n routerSuccessors ∧
      Cut SectionHeader.routers.isOn closesRouters above below := by
  obtain ⟨above, line, body, hd, rfl, hl, hb⟩ := findHeader?_eq_some_iff.mp hn
  refine ⟨_, _, ?_, ?_, Cut.of_header hb hl body⟩
  · rw [List.append_assoc, List.cons_append, List.takeWhile_append_dropWhile, hd]
  · rw [insertionPoint_of_header hd]
    simp
    omega

theorem cut_sectionEnd {h : SectionHeader} {n : Nat} (hn : d.findHeader? h 0 = some n) :
    ∃ above below, d.lines = above ++ below ∧ above.length = d.sectionEnd n ∧
      Cut h.isOn (isShallow h.indent) above below := by
  obtain ⟨above, line, body, hd, rfl, hl, hb⟩ := findHeader?_eq_some_iff.mp hn
  refine ⟨_, _, ?_, ?_, Cut.of_header hb hl body⟩
  · rw [List.append_assoc, List.cons_append, List.takeWhile_append_dropWhile, hd]
  · rw [sectionEnd_of_header hd hl]
    simp
    omega

theorem findHeader?_of_cut {h : SectionHeader} {closes : Text → Bool}
    (hd : d.lines = above ++ below) (hc : Cut h.isOn closes above below) :
    ∃ n, d.findHeader? h 0 = some n := by
  obtain ⟨l, hl, ho⟩ := hc.exists_opens
  exact exists_findHeader?_iff.mpr ⟨l, by rw [hd]; exact List.mem_append_left _ hl, ho⟩

theorem insertionPoint_of_cut (hd : d.lines = above ++ below)
    (hc : Cut SectionHeader.routers.isOn closesRouters above below) :
    ∃ n, d.findHeader? .routers 0 = some n ∧
      d.insertionPoint n routerSuccessors = above.length := by
  obtain ⟨n, hn⟩ := findHeader?_of_cut hd hc
  obtain ⟨a, b, hab, hlen, hcut⟩ := cut_insertionPoint hn
  have he := hc.unique hcut (by rw [← hd, hab])
  exact ⟨n, hn, by rw [he.1, hlen]⟩

theorem sectionEnd_of_cut {h : SectionHeader} (hd : d.lines = above ++ below)
    (hc : Cut h.isOn (isShallow h.indent) above below) :
    ∃ n, d.findHeader? h 0 = some n ∧ d.sectionEnd n = above.length := by
  obtain ⟨n, hn⟩ := findHeader?_of_cut hd hc
  obtain ⟨a, b, hab, hlen, hcut⟩ := cut_sectionEnd hn
  have he := hc.unique hcut (by rw [← hd, hab])
  exact ⟨n, hn, by rw [he.1, hlen]⟩

end Document
end HostRouting
