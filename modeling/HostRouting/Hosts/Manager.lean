import HostRouting.Hosts.Overrides
import HostRouting.Document.Editor

/-!
# Operations on hosts

Each operation reads the document of its application, edits it, and writes it back only
when it changed. A host that is already there, or that is not there to delete, is an
outcome and no error, and then the stored text is returned as it stands. The whole
state of the service is the state of its store and the defaults in force.
-/
namespace HostRouting

inductive Outcome where
  | added
  | alreadyExists
  | deleted
  | notFound
  deriving DecidableEq, Repr

/-- Whether the store was written. -/
def Outcome.changed : Outcome → Bool
  | .added => true
  | .deleted => true
  | _ => false

/-- The answer to an add or delete. -/
structure HostOperation where
  message : Text
  updatedConfig : Text
  hostname : Text
  outcome : Outcome
  deriving DecidableEq, Repr

/-- How a message names a change: with what acknowledgement, and whether overridden. -/
def changeMessage (verb : Text) (e : Entity) (o : Overrides) (acknowledgement : Text) : Text :=
  "Host '".toList ++ e.host ++ "' ".toList ++ verb ++ " successfully".toList ++
    (if o.isEmpty then [] else " with custom config".toList) ++
    "! Response: ".toList ++ acknowledgement

def alreadyExistsMessage (e : Entity) : Text :=
  "Host '".toList ++ e.host ++
    "' already exists in the configuration. No update needed.".toList

def notFoundMessage (e : Entity) : Text :=
  "Host '".toList ++ e.host ++ "' not found in configuration. Nothing to delete.".toList

/-- A store and the policy under which its documents are edited. -/
structure HostManager (σ : Type) where
  store : ConfigStore σ
  policy : MatchPolicy

namespace HostManager

variable {σ : Type} (m : HostManager σ)

/-- Writes a changed document and reports it under the given outcome. -/
def commit (target : StoreTarget) (updated : Document) (e : Entity) (o : Overrides)
    (verb : Text) (outcome : Outcome) (s : σ) : Except OperationError HostOperation × σ :=
  match m.store.write target updated.toText s with
  | (.error error, s) => (.error (.store error), s)
  | (.ok acknowledgement, s) =>
    (.ok ⟨changeMessage verb e o acknowledgement, updated.toText, e.host, outcome⟩, s)

/-- Routes a host in the document that its target holds. -/
def addEntity (e : Entity) (request : ResolvedRequest) (o : Overrides) (s : σ) :
    Except OperationError HostOperation × σ :=
  match m.store.read request.target s with
  | (.error error, s) => (.error (.store error), s)
  | (.ok current, s) =>
    match (Document.ofText current).addHost m.policy e request.plan with
    | .error error => (.error (.edit error), s)
    | .ok .alreadyExists =>
      (.ok ⟨alreadyExistsMessage e, current, e.host, .alreadyExists⟩, s)
    | .ok (.inserted updated) =>
      m.commit request.target updated e o "added".toList .added s

def addHost (d : Defaults) (hostname : Text) (o : Overrides) (s : σ) :
    Except OperationError HostOperation × σ :=
  match Entity.ofText hostname with
  | .error error => (.error (.edit error), s)
  | .ok e =>
    match o.resolve d with
    | .error error => (.error error, s)
    | .ok request => m.addEntity e request o s

def deleteHost (d : Defaults) (hostname : Text) (o : Overrides) (s : σ) :
    Except OperationError HostOperation × σ :=
  match Entity.ofText hostname with
  | .error error => (.error (.edit error), s)
  | .ok e =>
    match m.store.read (o.resolveTarget d) s with
    | (.error error, s) => (.error (.store error), s)
    | (.ok current, s) =>
      let document := Document.ofText current
      let updated := document.removeHost m.policy e
      if updated = document.trimBlankEdges then
        (.ok ⟨notFoundMessage e, current, e.host, .notFound⟩, s)
      else m.commit (o.resolveTarget d) updated e o "deleted".toList .deleted s

/-- The document of an application as it is stored. -/
def currentConfig (d : Defaults) (o : Overrides) (s : σ) : Except OperationError Text × σ :=
  match m.store.read (o.resolveTarget d) s with
  | (.error error, s) => (.error (.store error), s)
  | (.ok current, s) => (.ok current, s)

def serviceBindings (d : Defaults) (o : Overrides) (s : σ) :
    Except OperationError (List ServiceBinding) × σ :=
  match m.currentConfig d o s with
  | (.error error, s) => (.error error, s)
  | (.ok current, s) => (.ok (Document.ofText current).bindings, s)

end HostManager
end HostRouting
