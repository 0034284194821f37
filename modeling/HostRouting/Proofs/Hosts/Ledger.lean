import HostRouting.Hosts.Service
import HostRouting.Proofs.Hosts.Deletion

/-!
# What a run of calls writes

A call writes exactly when it answers that it has: an addition that added its host, a deletion that
deleted it. Then one document has changed, that of the application which the call addresses under
the defaults of that moment, and it is the text of the answer. Every other call, the refused ones
and the failed ones among them, leaves all documents and the number of writes, and a text
in its answer is the stored one. A text that is written always differs from the one it replaces: an
addition makes the document longer, and a deletion rids it of a host that had a block. So over a run
the writes are as many as such answers, and each document is the last one answered for it.
-/
namespace HostRouting
open Text

namespace Document

variable {policy : MatchPolicy} {e : Entity} {plan : RoutingPlan} {d d' : Document} {t : Text}

theorem length_visible_insertBlock {block : Text} (h : d.insertBlock e block = .ok (.inserted d')) :
    (visible d'.lines).length =
      (visible d.lines).length + (visible (indentBlock block 4)).length := by
  obtain ⟨-, above, below, hd, -, hd'⟩ := insertBlock_eq_inserted h
  rw [hd', hd]
  simp only [visible_append, visible_dropEndWhile, List.length_append]
  omega

theorem length_visible_insertServiceBlock {block : Text} (h : d.insertServiceBlock block = .ok d') :
    (visible d.lines).length ≤ (visible d'.lines).length := by
  obtain ⟨above, below, hd, -, hd'⟩ := insertServiceBlock_eq_ok h
  rw [hd', hd]
  simp only [visible_append, visible_dropEndWhile, List.length_append]
  omega

/-- Some row of a router block is visible, whatever line feeds tear the others apart. -/
theorem exists_mem_visible_routerRows (plan : RoutingPlan) (policy : MatchPolicy) (e : Entity) :
    ∃ row, row ∈ visible (plan.routerRows policy e) := by
  obtain ⟨g, hg⟩ : ∃ g, g ∈ plan.groups policy e := by
    unfold RoutingPlan.groups
    split_ifs <;> exact ⟨_, List.mem_cons_self⟩
  have hline : "  tls:".toList ∈ plan.routerLines policy e := by
    rw [RoutingPlan.routerLines_eq_flatMap]
    refine List.mem_flatMap.mpr ⟨g, hg, RouterGroup.mem_lines.mpr (.inr ?_)⟩
    refine ⟨_, List.mem_cons_of_mem _ List.mem_cons_self, Router.mem_lines.mpr ?_⟩
    exact .inr (.inr (.inr (.inr (.inl List.mem_cons_self))))
  have hb : isBlank "  tls:".toList = false := by decide
  refine ⟨_, mem_visible.mpr ⟨mem_indentBlock hline (by decide) hb, ?_⟩⟩
  rw [isBlank_indentLine, isBlank_dropReturn, hb]

theorem length_visible_addHost (h : d.addHost policy e plan = .ok (.inserted d')) :
    (visible d.lines).length < (visible d'.lines).length := by
  obtain ⟨routed, hr, hcase⟩ := addHost_eq_inserted h
  obtain ⟨row, hrow⟩ := exists_mem_visible_routerRows plan policy e
  have hrows : 0 < (visible (plan.routerRows policy e)).length := List.length_pos_of_mem hrow
  have hrouted : (visible d.lines).length < (visible routed.lines).length := by
    rw [length_visible_insertBlock hr]
    exact Nat.lt_add_of_pos_right hrows
  rcases hcase with ⟨-, rfl⟩ | ⟨-, hs⟩
  · exact hrouted
  · exact hrouted.trans_le (length_visible_insertServiceBlock hs)

/-- The text of an addition is not the text that was read. -/
theorem toText_ne_of_addHost (h : (ofText t).addHost policy e plan = .ok (.inserted d')) :
    d'.toText ≠ t := by
  intro hsame
  have hlines : ∀ l ∈ d'.lines, '\n' ∉ l :=
    newline_not_mem_addHost h fun _ hl => newline_not_mem_of_mem_ofText hl
  have hlonger := length_visible_addHost h
  rw [← visible_ofText_toText hlines, hsame] at hlonger
  exact lt_irrefl _ hlonger

end Document

namespace HostManager
open Document

variable {policy : MatchPolicy} {e : Entity} {application : Text} {s : MemoryStore}
  {r : Except OperationError HostOperation × MemoryStore}

/-- An operation fails, or it answers with the stored text, or it writes another one and answers
with that and with the given outcome. -/
inductive Writes (application : Text) (done : Outcome) (s : MemoryStore) :
    Except OperationError HostOperation × MemoryStore → Prop
  | failed {error : OperationError} : Writes application done s (.error error, s)
  | idle {op : HostOperation} (stored : s.document? application = some op.updatedConfig)
      (answer : op.outcome ≠ done) : Writes application done s (.ok op, s)
  | changed {op : HostOperation} (different : s.document? application ≠ some op.updatedConfig)
      (answer : op.outcome = done) :
    Writes application done s (.ok op, s.put application op.updatedConfig)

theorem Adds.writes (h : Adds policy e application s r) : Writes application .added s r := by
  cases h with
  | failed => exact .failed
  | present stored _ answer => exact .idle stored (by simp [answer])
  | added stored edited written answer =>
      refine .changed (fun hsame => ?_) answer
      rw [stored, written] at hsame
      exact toText_ne_of_addHost edited (Option.some.inj hsame).symm

theorem Deletes.writes (h : Deletes policy e application s r) :
    Writes application .deleted s r := by
  cases h with
  | failed _ => exact .failed
  | absent stored _ answer => exact .idle stored (by simp [answer])
  | @deleted op t stored present written answer =>
      refine .changed (fun hsame => present ?_) answer
      obtain rfl : t = op.updatedConfig := Option.some.inj (stored.symm.trans hsame)
      rw [written]
      exact without_ofText_removeHost policy e _

theorem writes_addHost (policy : MatchPolicy) (d : Defaults) (hostname : Text) (o : Overrides)
    (s : MemoryStore) : Writes (o.resolveTarget d).applicationId .added s
      ((inMemory policy).addHost d hostname o s) := by
  cases he : Entity.ofText hostname with
  | error error =>
      rw [addHost, he]
      exact .failed
  | ok e => exact (adds_addHost policy he d o s).writes

theorem writes_deleteHost (policy : MatchPolicy) (d : Defaults) (hostname : Text) (o : Overrides)
    (s : MemoryStore) : Writes (o.resolveTarget d).applicationId .deleted s
      ((inMemory policy).deleteHost d hostname o s) := by
  cases he : Entity.ofText hostname with
  | error error =>
      rw [deleteHost, he]
      exact .failed
  | ok e => exact (deletes_deleteHost policy he d o s).writes

end HostManager

/-- The application whose document a call is about, under the given defaults. -/
def ServiceCall.application? (d : Defaults) : ServiceCall → Option Text
  | add _ o => some (o.resolveTarget d).applicationId
  | delete _ o => some (o.resolveTarget d).applicationId
  | config o => some (o.resolveTarget d).applicationId
  | services o => some (o.resolveTarget d).applicationId
  | showDefaults => none
  | updateDefaults _ => none
  | resetDefaults => none

/-- The document text in an answer. -/
def ServiceAnswer.document? : ServiceAnswer → Option Text
  | host op => some op.updatedConfig
  | config t => some t
  | services _ => none
  | defaults _ => none
  | reset => none

/-- One call of a run: the state it met, its answer and the state it left. -/
structure ServiceStep where
  before : ServiceState MemoryStore
  call : ServiceCall
  answer : Except OperationError ServiceAnswer
  after : ServiceState MemoryStore

namespace ServiceStep
open HostManager

def application? (step : ServiceStep) : Option Text :=
  step.call.application? step.before.defaults.current

/-- The text that the step says it has written: an addition which added its host, or a deletion
which deleted it. -/
def written? (step : ServiceStep) : Option Text :=
  match step.call, step.answer with
  | .add _ _, .ok (.host op) => if op.outcome = .added then some op.updatedConfig else none
  | .delete _ _, .ok (.host op) => if op.outcome = .deleted then some op.updatedConfig else none
  | _, _ => none

/-- The store changes as the step says, and only there. -/
structure Lawful (step : ServiceStep) : Prop where
  elsewhere : ∀ id, step.application? ≠ some id →
    step.after.store.document? id = step.before.store.document? id
  written : ∀ t, step.written? = some t → step.after.store.writes = step.before.store.writes + 1 ∧
    ∃ id, step.application? = some id ∧ step.after.store.document? id = some t ∧
      step.before.store.document? id ≠ some t
  unwritten : step.written? = none → step.before.store.Unwritten step.after.store ∧
    ∀ answer t, step.answer = .ok answer → answer.document? = some t →
      ∃ id, step.application? = some id ∧ step.before.store.document? id = some t

variable {s : ServiceState MemoryStore} {application : Text} {call : ServiceCall}

/-- A step that is said to write nothing is lawful if it leaves the store and shows what it
keeps. -/
theorem Lawful.of_unwritten {step : ServiceStep} (hnone : step.written? = none)
    (hkept : step.before.store.Unwritten step.after.store)
    (hshown : ∀ answer t, step.answer = .ok answer → answer.document? = some t →
      ∃ id, step.application? = some id ∧ step.before.store.document? id = some t) :
    step.Lawful where
  elsewhere := fun id _ => hkept.document? id
  written := by
    intro t ht
    rw [hnone] at ht
    cases ht
  unwritten := fun _ => ⟨hkept, hshown⟩

theorem Lawful.of_failed {step : ServiceStep} {error : OperationError}
    (hanswer : step.answer = .error error) (hkept : step.before.store.Unwritten step.after.store) :
    step.Lawful := by
  obtain ⟨before, call, answer, after⟩ := step
  cases hanswer
  have hnone : written? ⟨before, call, .error error, after⟩ = none := by
    cases call <;> rfl
  refine .of_unwritten hnone hkept ?_
  intro answer t hanswer
  cases hanswer

/-- A step that shows no document and leaves the store is lawful. -/
theorem Lawful.of_hidden {step : ServiceStep} {answer : ServiceAnswer}
    (hanswer : step.answer = .ok answer) (hhidden : answer.document? = none)
    (hnone : step.written? = none) (hkept : step.before.store.Unwritten step.after.store) :
    step.Lawful := by
  refine .of_unwritten hnone hkept ?_
  intro answer' t hanswer' ht
  obtain rfl : answer = answer' := Except.ok.inj (hanswer.symm.trans hanswer')
  cases hhidden.symm.trans ht

/-- An operation on a host makes a lawful step of a call that takes its outcome for a write. -/
theorem Lawful.of_writes {done : Outcome} {r : Except OperationError HostOperation × MemoryStore}
    (happ : call.application? s.defaults.current = some application)
    (hcall : ∀ op after, written? ⟨s, call, .ok (.host op), after⟩ =
      if op.outcome = done then some op.updatedConfig else none)
    (h : Writes application done s.store r) :
    Lawful ⟨s, call, r.1.map .host, { s with store := r.2 }⟩ := by
  cases h with
  | failed => exact .of_failed rfl (.refl _)
  | idle stored answer =>
      refine .of_unwritten ((hcall _ _).trans (if_neg answer)) (.refl _) ?_
      intro answer t hanswer ht
      cases hanswer
      cases ht
      exact ⟨application, happ, stored⟩
  | @changed op different answer =>
      have hput := s.store.document?_put application op.updatedConfig
      have hwritten := (hcall op ⟨s.store.put application op.updatedConfig, s.defaults⟩).trans
        (if_pos answer)
      constructor
      · intro id hid
        refine (hput id).trans (if_neg fun h => hid ?_)
        rw [h]
        exact happ
      · intro t ht
        obtain rfl : op.updatedConfig = t := Option.some.inj (hwritten.symm.trans ht)
        exact ⟨rfl, application, happ, (hput application).trans (if_pos rfl), different⟩
      · intro hnone
        cases hwritten.symm.trans hnone

end ServiceStep

namespace HostManager
open ServiceStep

variable {policy : MatchPolicy}

theorem currentConfig_cases (policy : MatchPolicy) (d : Defaults) (o : Overrides)
    (s : MemoryStore) :
    (∃ error, (inMemory policy).currentConfig d o s = (.error error, s)) ∨
      ∃ t, (inMemory policy).currentConfig d o s = (.ok t, s) ∧
        s.document? (o.resolveTarget d).applicationId = some t := by
  rw [currentConfig, read_inMemory]
  rcases MemoryStore.read_cases (o.resolveTarget d) s with ⟨error, hr, -⟩ | ⟨t, hr, ht⟩
  · rw [hr]
    exact .inl ⟨_, rfl⟩
  · rw [hr]
    exact .inr ⟨t, rfl, ht⟩

theorem lawful_serve (policy : MatchPolicy) (call : ServiceCall) (s : ServiceState MemoryStore) :
    Lawful ⟨s, call, ((inMemory policy).serve call s).1, ((inMemory policy).serve call s).2⟩ := by
  cases call with
  | add hostname o =>
      exact .of_writes rfl (fun _ _ => rfl)
        (writes_addHost policy s.defaults.current hostname o s.store)
  | delete hostname o =>
      exact .of_writes rfl (fun _ _ => rfl)
        (writes_deleteHost policy s.defaults.current hostname o s.store)
  | config o =>
      rw [serve, ServiceState.after]
      rcases currentConfig_cases policy s.defaults.current o s.store with
        ⟨error, hc⟩ | ⟨t, hc, ht⟩
      · rw [hc]
        exact .of_failed rfl (.refl _)
      · rw [hc]
        refine .of_unwritten rfl (.refl _) ?_
        intro answer t' hanswer ht'
        cases hanswer
        cases ht'
        exact ⟨_, rfl, ht⟩
  | services o =>
      rw [serve, ServiceState.after, serviceBindings]
      rcases currentConfig_cases policy s.defaults.current o s.store with
        ⟨error, hc⟩ | ⟨t, hc, -⟩
      · rw [hc]
        exact .of_failed rfl (.refl _)
      · rw [hc]
        exact .of_hidden rfl rfl rfl (.refl _)
  | showDefaults => exact .of_hidden rfl rfl rfl (.refl _)
  | updateDefaults u => exact .of_hidden rfl rfl rfl (.refl _)
  | resetDefaults => exact .of_hidden rfl rfl rfl (.refl _)

/-- The steps of a run, in order. -/
def trace (m : HostManager MemoryStore) : ServiceState MemoryStore → List ServiceCall →
    List ServiceStep
  | _, [] => []
  | s, call :: rest =>
    ⟨s, call, (m.serve call s).1, (m.serve call s).2⟩ :: trace m (m.serve call s).2 rest

/-- The state at the end of a run. -/
def run (m : HostManager MemoryStore) : ServiceState MemoryStore → List ServiceCall →
    ServiceState MemoryStore
  | s, [] => s
  | s, call :: rest => run m (m.serve call s).2 rest

end HostManager

namespace ServiceStep

/-- The text that the step says it has written under the application. -/
def writtenTo? (id : Text) (step : ServiceStep) : Option Text :=
  if step.application? = some id then step.written? else none

/-- A lawful step leaves under an application what it has written there, or what was there. -/
theorem Lawful.document? {step : ServiceStep} (h : step.Lawful) (id : Text) :
    step.after.store.document? id = (step.writtenTo? id).or (step.before.store.document? id) := by
  unfold writtenTo?
  split_ifs with happ
  · cases hw : step.written? with
    | none => exact (h.unwritten hw).1.document? id
    | some t =>
        obtain ⟨-, id', happ', ht, -⟩ := h.written t hw
        obtain rfl : id = id' := Option.some.inj (happ.symm.trans happ')
        exact ht
  · exact h.elsewhere id happ

theorem Lawful.writes {step : ServiceStep} (h : step.Lawful) :
    step.after.store.writes = step.before.store.writes + if step.written?.isSome then 1 else 0 := by
  cases hw : step.written? with
  | none => exact (h.unwritten hw).1.writes
  | some t => exact (h.written t hw).1

end ServiceStep

namespace HostManager
open ServiceStep

/-- Over any run every step is lawful, the writes are as many as the answers that report one, and
each document is the last one that a step has written, or else the one of the start. -/
theorem trace_lawful (policy : MatchPolicy) (s : ServiceState MemoryStore)
    (calls : List ServiceCall) :
    (∀ step ∈ (inMemory policy).trace s calls, step.Lawful) ∧
      ((inMemory policy).run s calls).store.writes =
        s.store.writes + ((inMemory policy).trace s calls).countP (·.written?.isSome) ∧
      ∀ id, ((inMemory policy).run s calls).store.document? id =
        (((inMemory policy).trace s calls).filterMap (writtenTo? id)).getLast?.or
          (s.store.document? id) := by
  induction calls generalizing s with
  | nil => exact ⟨by simp [trace], rfl, fun _ => rfl⟩
  | cons call rest ih =>
      have hstep := lawful_serve policy call s
      obtain ⟨hrest, hwrites, hdocument⟩ := ih ((inMemory policy).serve call s).2
      refine ⟨List.forall_mem_cons.mpr ⟨hstep, hrest⟩, ?_, fun id => ?_⟩
      · rw [run, hwrites, hstep.writes, trace, List.countP_cons]
        dsimp only
        omega
      · rw [run, hdocument, hstep.document?, trace, List.filterMap_cons]
        cases writtenTo? id ⟨s, call, _, _⟩ with
        | none => rfl
        | some t =>
            dsimp only
            rw [List.getLast?_cons]
            generalize (List.filterMap (writtenTo? id) _).getLast? = later
            cases later <;> rfl

end HostManager
end HostRouting
