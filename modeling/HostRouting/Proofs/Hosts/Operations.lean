import HostRouting.Hosts.Manager
import HostRouting.Store.Memory
import HostRouting.Proofs.Document.Frame

/-!
# What an operation on a host does to a memory store

An operation reads one document, edits it and writes it back at most once. It ends in one of three
ways: it fails and leaves the store as it was, it finds nothing to do and answers with the text that
is stored, or it puts the edited text under the application it has read from. The two relations
below say so with everything that is known in each case, and all that is said of additions and
deletions elsewhere is read off them.
-/
namespace HostRouting

namespace MemoryStore

variable {s s' : MemoryStore}

/-- The second store keeps what the first one does, and no write was counted between them. -/
structure Unwritten (s s' : MemoryStore) : Prop where
  documents : s'.documents = s.documents
  writes : s'.writes = s.writes

theorem Unwritten.refl (s : MemoryStore) : s.Unwritten s := ⟨rfl, rfl⟩

theorem Unwritten.document? (h : s.Unwritten s') (id : Text) :
    s'.document? id = s.document? id := by
  unfold MemoryStore.document?
  rw [h.documents]

theorem document?_put (s : MemoryStore) (application t id : Text) :
    (s.put application t).document? id = if id = application then some t else s.document? id :=
  lookup_setDocument id application t s.documents

/-- A read shows the document of its application, and fails if there is none. -/
theorem read_cases (target : StoreTarget) (s : MemoryStore) :
    (∃ error, read target s = (.error error, s) ∧ s.document? target.applicationId = none) ∨
    ∃ t, read target s = (.ok t, s) ∧ s.document? target.applicationId = some t := by
  unfold read
  cases hd : s.document? target.applicationId with
  | none => exact .inl ⟨_, rfl, rfl⟩
  | some t => exact .inr ⟨t, rfl, rfl⟩

end MemoryStore

namespace Document

variable {policy : MatchPolicy} {e : Entity} {d : Document}

/-- No line opens a block of the host. -/
def Without (policy : MatchPolicy) (e : Entity) (d : Document) : Prop :=
  ∀ l ∈ d.lines, policy.startsBlock e l = false

instance (policy : MatchPolicy) (e : Entity) (d : Document) : Decidable (d.Without policy e) :=
  inferInstanceAs (Decidable (∀ l ∈ d.lines, _))

end Document

/-- The target of a request that was resolved is the target of the call. -/
theorem Overrides.target_of_resolve {o : Overrides} {d : Defaults} {request : ResolvedRequest}
    (h : o.resolve d = .ok request) : request.target = o.resolveTarget d := by
  unfold resolve at h
  cases hp : o.plan d.routing with
  | error error =>
      rw [hp] at h
      cases h
  | ok plan =>
      rw [hp] at h
      cases h
      rfl

namespace HostManager
open Document

/-- A manager of the documents in a memory store. -/
def inMemory (policy : MatchPolicy) : HostManager MemoryStore := ⟨MemoryStore.store, policy⟩

@[simp] theorem policy_inMemory (policy : MatchPolicy) : (inMemory policy).policy = policy := rfl

@[simp] theorem read_inMemory (policy : MatchPolicy) :
    (inMemory policy).store.read = MemoryStore.read := rfl

@[simp] theorem write_inMemory (policy : MatchPolicy) :
    (inMemory policy).store.write = MemoryStore.write := rfl

/-- How an addition of the host to the document of the application ends. -/
inductive Adds (policy : MatchPolicy) (e : Entity) (application : Text) (s : MemoryStore) :
    Except OperationError HostOperation × MemoryStore → Prop
  | failed {error : OperationError} : Adds policy e application s (.error error, s)
  | present {op : HostOperation} (stored : s.document? application = some op.updatedConfig)
      (found : (ofText op.updatedConfig).contains e.marker = true)
      (answer : op.outcome = .alreadyExists) : Adds policy e application s (.ok op, s)
  | added {op : HostOperation} {t : Text} {plan : RoutingPlan} {updated : Document}
      (stored : s.document? application = some t)
      (edited : (ofText t).addHost policy e plan = .ok (.inserted updated))
      (written : op.updatedConfig = updated.toText) (answer : op.outcome = .added) :
    Adds policy e application s (.ok op, s.put application op.updatedConfig)

/-- How a deletion of the host from the document of the application ends. -/
inductive Deletes (policy : MatchPolicy) (e : Entity) (application : Text) (s : MemoryStore) :
    Except OperationError HostOperation × MemoryStore → Prop
  | failed {error : OperationError} (cause : s.document? application = none) :
    Deletes policy e application s (.error error, s)
  | absent {op : HostOperation} (stored : s.document? application = some op.updatedConfig)
      (without : (ofText op.updatedConfig).Without policy e) (answer : op.outcome = .notFound) :
    Deletes policy e application s (.ok op, s)
  | deleted {op : HostOperation} {t : Text} (stored : s.document? application = some t)
      (present : ¬ (ofText t).Without policy e)
      (written : op.updatedConfig = ((ofText t).removeHost policy e).toText)
      (answer : op.outcome = .deleted) :
    Deletes policy e application s (.ok op, s.put application op.updatedConfig)

variable {policy : MatchPolicy} {e : Entity} {hostname : Text}

/-- A commit writes its document once and answers with the text. -/
theorem exists_commit_eq (policy : MatchPolicy) (target : StoreTarget) (updated : Document)
    (e : Entity) (o : Overrides) (verb : Text) (outcome : Outcome) (s : MemoryStore) :
    ∃ op : HostOperation, (inMemory policy).commit target updated e o verb outcome s =
        (.ok op, s.put target.applicationId op.updatedConfig) ∧
      op.updatedConfig = updated.toText ∧ op.outcome = outcome :=
  ⟨_, rfl, rfl, rfl⟩

theorem deletes_deleteHost (policy : MatchPolicy) (he : Entity.ofText hostname = .ok e)
    (d : Defaults) (o : Overrides) (s : MemoryStore) :
    Deletes policy e (o.resolveTarget d).applicationId s
      ((inMemory policy).deleteHost d hostname o s) := by
  rw [deleteHost, he, policy_inMemory, read_inMemory]
  dsimp only
  rcases MemoryStore.read_cases (o.resolveTarget d) s with ⟨error, hr, hcause⟩ | ⟨t, hr, ht⟩
  · rw [hr]
    exact .failed hcause
  · rw [hr]
    dsimp only
    split_ifs with hsame
    · exact .absent ht (removeHost_eq_trimBlankEdges_iff.mp hsame) rfl
    · obtain ⟨op, hc, hwritten, hanswer⟩ := exists_commit_eq policy (o.resolveTarget d)
        ((ofText t).removeHost policy e) e o "deleted".toList .deleted s
      rw [hc]
      exact .deleted ht (fun hw => hsame (removeHost_eq_trimBlankEdges_iff.mpr hw)) hwritten hanswer

theorem adds_addHost (policy : MatchPolicy) (he : Entity.ofText hostname = .ok e)
    (d : Defaults) (o : Overrides) (s : MemoryStore) :
    Adds policy e (o.resolveTarget d).applicationId s
      ((inMemory policy).addHost d hostname o s) := by
  rw [addHost, he]
  dsimp only
  cases hq : o.resolve d with
  | error error => exact .failed
  | ok request =>
      dsimp only
      rw [addEntity, Overrides.target_of_resolve hq, policy_inMemory, read_inMemory]
      rcases MemoryStore.read_cases (o.resolveTarget d) s with ⟨error, hr, -⟩ | ⟨t, hr, ht⟩
      · rw [hr]
        exact .failed
      · rw [hr]
        dsimp only
        cases ha : (ofText t).addHost policy e request.plan with
        | error error => exact .failed
        | ok result =>
            cases result with
            | alreadyExists => exact .present ht (addHost_eq_alreadyExists_iff.mp ha) rfl
            | inserted updated =>
                dsimp only
                obtain ⟨op, hc, hwritten, hanswer⟩ := exists_commit_eq policy (o.resolveTarget d)
                  updated e o "added".toList .added s
                rw [hc]
                exact .added ht ha hwritten hanswer

end HostManager
end HostRouting
