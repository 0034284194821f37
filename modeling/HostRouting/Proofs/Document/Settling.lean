import HostRouting.Proofs.Document.Presence
import HostRouting.Proofs.Document.Repetition

/-!
# Runs on a document and on its text

A document value may end in blank lines that its text leaves out. Such lines move the end of the
document, and with it the points of insertion and the reach of a block. They decide nothing: an
edit of the settled document answers as the edit of the document does, and both results settle to
the same lines. So a run may read the document back from its text before any of its steps, and
neither an answer nor a text changes.
-/
namespace HostRouting
open Text SectionHeader

/-- The result of an insertion with another document in it. -/
def Insertion.map (f : Document → Document) : Insertion → Insertion
  | inserted d => inserted (f d)
  | alreadyExists => alreadyExists

section
variable {opens closes : Text → Bool} {above below : List Text}

theorem dropEndWhile_append_dropEndWhile {α : Type} (p : α → Bool) (l m : List α) :
    dropEndWhile p (l ++ dropEndWhile p m) = dropEndWhile p (l ++ m) := by
  obtain ⟨gap, hgap, hdropped⟩ := exists_append_dropEndWhile p m
  conv_rhs => rw [hgap, ← List.append_assoc]
  exact (dropEndWhile_append_of_all p hdropped).symm

/-- Lines that are cut are cut at the same place when blank ones at their end are dropped. -/
theorem Cut.settle (hneutral : ∀ l, isBlank l = true → opens l = false ∧ closes l = false)
    (hc : Cut opens closes above below) :
    ∃ above', dropEndWhile isBlank (above ++ below) = above' ++ dropEndWhile isBlank below ∧
      Cut opens closes above' (dropEndWhile isBlank below) ∧
        dropEndWhile isBlank above' = dropEndWhile isBlank above := by
  cases below with
  | nil =>
      obtain ⟨gap, hgap, hblank⟩ := exists_append_dropEndWhile isBlank above
      have hgone : Neutral opens closes gap := fun l hl => hneutral l (hblank l hl)
      have hread : Phase.read opens closes .before (dropEndWhile isBlank above) = .inside := by
        have hall := hc.inside
        rw [hgap, Phase.read_append, Phase.read_neutral _ hgone] at hall
        exact hall
      refine ⟨dropEndWhile isBlank above, ?_, ⟨hread, hc.closed⟩, ?_⟩
      · rw [List.append_nil, dropEndWhile_nil, List.append_nil]
      · exact List.rdropWhile_idempotent isBlank above
  | cons line rest =>
      have hclosed : closes line = true := hc.closed line rfl
      have hvisible : isBlank line = false := by
        rw [Bool.eq_false_iff]
        intro hb
        rw [(hneutral line hb).2] at hclosed
        cases hclosed
      have hhead : dropEndWhile isBlank (line :: rest) = line :: dropEndWhile isBlank rest :=
        dropEndWhile_cons_of_neg isBlank rest hvisible
      refine ⟨above, ?_, ⟨hc.inside, ?_⟩, rfl⟩
      · exact dropEndWhile_append_of_exists isBlank ⟨line, List.mem_cons_self, hvisible⟩
      · rw [hhead]
        exact hc.closed

end

/-- Of blank lines at the end a scan keeps some or none, and above them what it would keep. -/
theorem keptLines_append_of_isBlank (policy : MatchPolicy) (e : Entity) (state : ScanState)
    (lines : List Text) {gap : List Text} (hgap : ∀ l ∈ gap, isBlank l = true) :
    ∃ kept, keptLines policy e state (lines ++ gap) = keptLines policy e state lines ++ kept ∧
      ∀ l ∈ kept, isBlank l = true := by
  induction lines generalizing state with
  | nil => exact ⟨_, rfl, fun l hl => hgap l (mem_of_mem_keptLines hl)⟩
  | cons line rest ih =>
      obtain ⟨kept, hkept, hblank⟩ := ih (state.step policy e line).1
      refine ⟨kept, ?_, hblank⟩
      rw [List.cons_append, keptLines, keptLines, hkept]
      split_ifs <;> rfl

namespace Document

variable {d d' : Document} {e : Entity} {policy : MatchPolicy} {plan : RoutingPlan}

/-- The document without blank lines at its end. -/
def settle (d : Document) : Document := ⟨dropEndWhile isBlank d.lines⟩

theorem settle_settle (d : Document) : d.settle.settle = d.settle :=
  congrArg Document.mk (List.rdropWhile_idempotent isBlank d.lines)

theorem toText_settle (d : Document) : d.settle.toText = d.toText :=
  congrArg Text.ofLines (List.rdropWhile_idempotent isBlank d.lines)

theorem visible_settle (d : Document) : visible d.settle.lines = visible d.lines :=
  visible_dropEndWhile d.lines

/-- What is read back from a text is the settled document. -/
theorem ofText_toText (h : ∀ l ∈ d.lines, '\n' ∉ l) : ofText d.toText = d.settle :=
  congrArg Document.mk (lines_ofText_toText_of_newline_not_mem h)

theorem trimBlankEdges_append {lines gap : List Text} (hgap : ∀ l ∈ gap, isBlank l = true) :
    trimBlankEdges ⟨lines ++ gap⟩ = trimBlankEdges ⟨lines⟩ := by
  unfold trimBlankEdges
  congr 1
  rw [List.dropWhile_append]
  split_ifs with hempty
  · have hnone : gap.dropWhile isBlank = [] := List.dropWhile_eq_nil_iff.mpr hgap
    rw [hnone, List.isEmpty_iff.mp hempty]
  · exact dropEndWhile_append_of_all isBlank hgap

theorem trimBlankEdges_settle (d : Document) : d.settle.trimBlankEdges = d.trimBlankEdges := by
  obtain ⟨gap, hgap, hblank⟩ := exists_append_dropEndWhile isBlank d.lines
  have hd : d = ⟨dropEndWhile isBlank d.lines ++ gap⟩ := congrArg Document.mk hgap
  conv_rhs => rw [hd, trimBlankEdges_append hblank]
  rfl

theorem settle_trimBlankEdges (d : Document) : d.trimBlankEdges.settle = d.trimBlankEdges :=
  settle_settle ⟨d.lines.dropWhile isBlank⟩

theorem mem_of_mem_trimBlankEdges {l : Text} (h : l ∈ d.trimBlankEdges.lines) : l ∈ d.lines :=
  (List.dropWhile_suffix isBlank).subset (mem_of_mem_dropEndWhile isBlank h)

theorem contains_marker_settle (e : Entity) (d : Document) :
    d.settle.contains e.marker = d.contains e.marker := by
  rw [Bool.eq_iff_iff, contains_marker_iff, contains_marker_iff, visible_settle]

theorem findHeader?_settle_eq_none_iff {h : SectionHeader} :
    d.settle.findHeader? h 0 = none ↔ d.findHeader? h 0 = none := by
  rw [← not_iff_not, ← ne_eq, ← ne_eq, Option.ne_none_iff_exists', Option.ne_none_iff_exists',
    exists_findHeader?_iff_visible, exists_findHeader?_iff_visible, visible_settle]

/-- A splice at one place of the lines settles alike with and without blank lines at the end. -/
theorem settle_spliced {above above' below rows : List Text}
    (habove : dropEndWhile isBlank above' = dropEndWhile isBlank above) :
    settle ⟨dropEndWhile isBlank above' ++ rows ++ dropEndWhile isBlank below⟩ =
      settle ⟨dropEndWhile isBlank above ++ rows ++ below⟩ := by
  unfold settle
  rw [habove, dropEndWhile_append_dropEndWhile]

theorem insertBlock_settle (d : Document) (e : Entity) (block : Text) :
    (d.settle.insertBlock e block).map (Insertion.map settle) =
      (d.insertBlock e block).map (Insertion.map settle) := by
  have hcontains := contains_marker_settle e d
  cases hm : d.contains e.marker with
  | true => simp [insertBlock, hcontains, hm]
  | false =>
      cases hn : d.findHeader? .routers 0 with
      | none =>
          have hnone := findHeader?_settle_eq_none_iff.mpr hn
          simp [insertBlock, hcontains, hm, requireHeader, hn, hnone]
      | some n =>
          obtain ⟨above, below, hd, -, hc⟩ := cut_insertionPoint hn
          obtain ⟨above', hsettled, hc', habove⟩ := Cut.settle
            (fun _ => neutral_of_isBlank (by decide) fun _ => isShallow_of_closesRouters) hc
          have hd' : d.settle.lines = above' ++ dropEndWhile isBlank below := by
            rw [settle, hd]
            exact hsettled
          rw [insertBlock_of_cut hm hd hc, insertBlock_of_cut (hcontains.trans hm) hd' hc']
          exact congrArg (fun r => Except.ok (Insertion.inserted r)) (settle_spliced habove)

theorem serviceSection_settle (d : Document) :
    d.settle.serviceSection = d.serviceSection ∧ d.settle.serviceOpening = d.serviceOpening := by
  apply serviceSection_congr
  rw [← findHeader?_eq_none_iff, ← findHeader?_eq_none_iff, findHeader?_settle_eq_none_iff]

theorem insertServiceBlock_of_none (hn : d.findHeader? d.serviceSection 0 = none) (block : Text) :
    d.insertServiceBlock block = .error (.missingSection SectionHeader.http.name) := by
  unfold serviceSection at hn
  unfold insertServiceBlock
  cases hf : d.findHeader? .services 0 with
  | some n => simp [hf] at hn
  | none =>
      rw [hf] at hn
      dsimp only at hn ⊢
      rw [requireHeader, hn]

theorem insertServiceBlock_settle (d : Document) (block : Text) :
    (d.settle.insertServiceBlock block).map settle = (d.insertServiceBlock block).map settle := by
  obtain ⟨hsection, hopening⟩ := d.serviceSection_settle
  cases hn : d.findHeader? d.serviceSection 0 with
  | none =>
      have hnone := findHeader?_settle_eq_none_iff.mpr hn
      rw [insertServiceBlock_of_none hn, insertServiceBlock_of_none (by rwa [hsection])]
  | some n =>
      obtain ⟨above, below, hd, -, hc⟩ := cut_sectionEnd hn
      obtain ⟨above', hsettled, hc', habove⟩ := Cut.settle
        (fun _ => neutral_of_isBlank d.indent_serviceSection_le fun _ =>
          isShallow_mono d.indent_serviceSection_le) hc
      have hd' : d.settle.lines = above' ++ dropEndWhile isBlank below := by
        rw [settle, hd]
        exact hsettled
      rw [insertServiceBlock_of_cut hd hc, insertServiceBlock_of_cut hd' (by rwa [hsection]),
        hopening]
      exact congrArg Except.ok (settle_spliced habove)

/-- Two insertions that settle alike fail alike, find the host alike, or insert it alike. -/
theorem cases_of_map_settle {r r' : Except EditError Insertion}
    (h : r.map (Insertion.map settle) = r'.map (Insertion.map settle)) :
    (∃ error, r = .error error ∧ r' = .error error) ∨
      (r = .ok .alreadyExists ∧ r' = .ok .alreadyExists) ∨
      ∃ d d', r = .ok (.inserted d) ∧ r' = .ok (.inserted d') ∧ d.settle = d'.settle := by
  cases r with
  | error error =>
      cases r' with
      | error error' => exact .inl ⟨error, rfl, congrArg Except.error (Except.error.inj h).symm⟩
      | ok result' => cases h
  | ok result =>
      cases r' with
      | error error' => cases h
      | ok result' =>
          have hresult : result.map settle = result'.map settle := Except.ok.inj h
          cases result with
          | alreadyExists =>
              cases result' with
              | alreadyExists => exact .inr (.inl ⟨rfl, rfl⟩)
              | inserted d' => cases hresult
          | inserted d =>
              cases result' with
              | alreadyExists => cases hresult
              | inserted d' =>
                  exact .inr (.inr ⟨d, d', rfl, rfl, Insertion.inserted.inj hresult⟩)

theorem map_inserted_settle (served : Except EditError Document) :
    (served.map Insertion.inserted).map (Insertion.map settle) =
      (served.map settle).map Insertion.inserted := by
  cases served <;> rfl

/-- An addition to the settled document answers as one to the document, and inserts the same. -/
theorem addHost_settle (policy : MatchPolicy) (e : Entity) (plan : RoutingPlan) (d : Document) :
    (d.settle.addHost policy e plan).map (Insertion.map settle) =
      (d.addHost policy e plan).map (Insertion.map settle) := by
  rcases cases_of_map_settle (insertBlock_settle d e (plan.routerBlock policy e)) with
    ⟨error, hr', hr⟩ | ⟨hr', hr⟩ | ⟨routed', routed, hr', hr, hsame⟩
  · simp only [addHost, hr, hr']
  · simp only [addHost, hr, hr']
  · simp only [addHost, hr, hr']
    split_ifs
    · exact congrArg (fun r => Except.ok (Insertion.inserted r)) hsame
    · have hserved : (routed'.insertServiceBlock (plan.serviceBlock policy e)).map settle =
          (routed.insertServiceBlock (plan.serviceBlock policy e)).map settle := by
        rw [← insertServiceBlock_settle, hsame, insertServiceBlock_settle]
      rw [map_inserted_settle, map_inserted_settle, hserved]

theorem removeHost_settle (policy : MatchPolicy) (e : Entity) (d : Document) :
    d.settle.removeHost policy e = d.removeHost policy e := by
  obtain ⟨gap, hgap, hblank⟩ := exists_append_dropEndWhile isBlank d.lines
  obtain ⟨kept, hkept, hkeptBlank⟩ :=
    keptLines_append_of_isBlank policy e .outside (dropEndWhile isBlank d.lines) hblank
  rw [removeHost, removeHost]
  conv_rhs => rw [hgap, hkept, trimBlankEdges_append hkeptBlank]
  rfl

theorem mem_keptLines_of_mem_removeHost {l : Text} (h : l ∈ (d.removeHost policy e).lines) :
    l ∈ keptLines policy e .outside d.lines :=
  mem_of_mem_trimBlankEdges (d := ⟨keptLines policy e .outside d.lines⟩) h

theorem newline_not_mem_removeHost (h : ∀ l ∈ d.lines, '\n' ∉ l) :
    ∀ l ∈ (d.removeHost policy e).lines, '\n' ∉ l :=
  fun l hl => h l (mem_of_mem_keptLines (mem_keptLines_of_mem_removeHost hl))

end Document

/-- What an edit answers, without the document. A removal says whether it took a block. -/
inductive EditAnswer where
  | inserted
  | alreadyExists
  | refused (error : EditError)
  | removed (taken : Bool)
  deriving DecidableEq, Repr

namespace HostEdit
open Document

variable {policy : MatchPolicy} {d d' : Document}

def answer (policy : MatchPolicy) (d : Document) : HostEdit → EditAnswer
  | add e plan =>
    match d.addHost policy e plan with
    | .ok (.inserted _) => .inserted
    | .ok .alreadyExists => .alreadyExists
    | .error error => .refused error
  | remove e => .removed (d.removeHost policy e ≠ d.trimBlankEdges)

/-- An edit answers alike on documents that settle alike, and leaves such documents. -/
theorem agree_of_settle (h : d.settle = d'.settle) (edit : HostEdit) :
    edit.answer policy d = edit.answer policy d' ∧
      (edit.apply policy d).settle = (edit.apply policy d').settle := by
  cases edit with
  | add e plan =>
      have hsame : (d.addHost policy e plan).map (Insertion.map settle) =
          (d'.addHost policy e plan).map (Insertion.map settle) := by
        rw [← addHost_settle, h, addHost_settle]
      rcases cases_of_map_settle hsame with
        ⟨error, hr, hr'⟩ | ⟨hr, hr'⟩ | ⟨inserted, inserted', hr, hr', hsettled⟩
      · simp only [answer, apply, hr, hr', h, and_self]
      · simp only [answer, apply, hr, hr', h, and_self]
      · simp only [answer, apply, hr, hr', hsettled, and_self]
  | remove e =>
      have hremoved : d.removeHost policy e = d'.removeHost policy e := by
        rw [← removeHost_settle, h, removeHost_settle]
      have htrimmed : d.trimBlankEdges = d'.trimBlankEdges := by
        rw [← trimBlankEdges_settle, h, trimBlankEdges_settle]
      simp only [answer, apply, hremoved, htrimmed, and_self]

theorem newline_not_mem_apply (h : ∀ l ∈ d.lines, '\n' ∉ l) (edit : HostEdit) :
    ∀ l ∈ (edit.apply policy d).lines, '\n' ∉ l := by
  cases edit with
  | add e plan =>
      simp only [apply]
      split
      · rename_i hr
        exact newline_not_mem_addHost hr h
      · exact h
  | remove e => exact newline_not_mem_removeHost h

/-- What a run shows: the answer of each edit and the text of the document behind it. -/
def transcript (policy : MatchPolicy) : Document → List HostEdit → List (EditAnswer × Text)
  | _, [] => []
  | d, edit :: rest =>
    (edit.answer policy d, (edit.apply policy d).toText) ::
      transcript policy (edit.apply policy d) rest

/-- What a run shows that reads the document back from its text before each marked edit. -/
def rereadTranscript (policy : MatchPolicy) :
    Document → List (Bool × HostEdit) → List (EditAnswer × Text)
  | _, [] => []
  | d, (reread, edit) :: rest =>
    let current := if reread then ofText d.toText else d
    (edit.answer policy current, (edit.apply policy current).toText) ::
      rereadTranscript policy (edit.apply policy current) rest

/-- The documents of the two runs differ in blank lines at their end, and in nothing else. -/
theorem rereadTranscript_of_settle (h : d'.settle = d.settle) (hd : ∀ l ∈ d'.lines, '\n' ∉ l)
    (steps : List (Bool × HostEdit)) :
    rereadTranscript policy d' steps = transcript policy d (steps.map Prod.snd) := by
  induction steps generalizing d d' with
  | nil => rfl
  | cons step rest ih =>
      obtain ⟨reread, edit⟩ := step
      obtain ⟨current, hcurrent, hsettled, hlines⟩ : ∃ current,
          (if reread then ofText d'.toText else d') = current ∧ current.settle = d.settle ∧
            ∀ l ∈ current.lines, '\n' ∉ l := by
        cases reread with
        | false => exact ⟨d', rfl, h, hd⟩
        | true =>
            refine ⟨d'.settle, ofText_toText hd, ?_, fun l hl => hd l ?_⟩
            · rw [settle_settle, h]
            · exact mem_of_mem_dropEndWhile isBlank hl
      obtain ⟨hanswer, happlied⟩ : edit.answer policy current = edit.answer policy d ∧
          (edit.apply policy current).settle = (edit.apply policy d).settle :=
        agree_of_settle hsettled edit
      have htext : (edit.apply policy current).toText = (edit.apply policy d).toText := by
        rw [← toText_settle, happlied, toText_settle]
      rw [rereadTranscript, hcurrent, List.map_cons, transcript, hanswer, htext,
        ih happlied (newline_not_mem_apply hlines edit)]

/-- A run answers and writes the same whether the document is carried from edit to edit or read
back from its text before any of them. -/
theorem rereadTranscript_ofText (policy : MatchPolicy) (t : Text)
    (steps : List (Bool × HostEdit)) :
    rereadTranscript policy (ofText t) steps =
      transcript policy (ofText t) (steps.map Prod.snd) :=
  rereadTranscript_of_settle rfl (fun _ hl => newline_not_mem_of_mem_ofText hl) steps

end HostEdit
end HostRouting
