import HostRouting.Store.Basic

/-!
# A store in memory

Documents by application id, and the number of writes. An application that was never
written is reported the way a remote store would do it, and a write never fails.
-/
namespace HostRouting

structure MemoryStore where
  documents : List (Text × Text) := []
  writes : Nat := 0
  deriving DecidableEq, Repr

namespace MemoryStore

def document? (s : MemoryStore) (applicationId : Text) : Option Text :=
  s.documents.lookup applicationId

/-- The documents with one of them set. -/
def setDocument (applicationId document : Text) : List (Text × Text) → List (Text × Text)
  | [] => [(applicationId, document)]
  | (id, old) :: rest =>
    if id = applicationId then (id, document) :: rest
    else (id, old) :: setDocument applicationId document rest

/-- A store that holds one document; writing it did not count. -/
def withDocument (applicationId document : Text) : MemoryStore :=
  { documents := [(applicationId, document)] }

def unknownApplication (applicationId : Text) : StoreError :=
  .status .fetch 404 ("application '".toList ++ applicationId ++ "' not found".toList)

def acknowledgement : Text := "\x7b\"success\":true\x7d".toList

def put (s : MemoryStore) (applicationId document : Text) : MemoryStore :=
  ⟨setDocument applicationId document s.documents, s.writes + 1⟩

def read (target : StoreTarget) (s : MemoryStore) : Except StoreError Text × MemoryStore :=
  match s.document? target.applicationId with
  | some document => (.ok document, s)
  | none => (.error (unknownApplication target.applicationId), s)

def write (target : StoreTarget) (document : Text) (s : MemoryStore) :
    Except StoreError Text × MemoryStore :=
  (.ok acknowledgement, s.put target.applicationId document)

def store : ConfigStore MemoryStore := ⟨read, write⟩

theorem lookup_setDocument (id application document : Text) (ds : List (Text × Text)) :
    (setDocument application document ds).lookup id =
      if id = application then some document else ds.lookup id := by
  induction ds with
  | nil =>
    by_cases h : id = application
    · simp [setDocument, h]
    · simp [setDocument, List.lookup_cons, beq_eq_false_iff_ne.2 h, h]
  | cons d ds ih =>
    obtain ⟨key, old⟩ := d
    by_cases hk : key = application
    · subst hk
      by_cases h : id = key
      · simp [setDocument, h]
      · simp [setDocument, List.lookup_cons, beq_eq_false_iff_ne.2 h, h]
    · by_cases h : id = key
      · subst h
        simp [setDocument, hk]
      · simp [setDocument, List.lookup_cons, beq_eq_false_iff_ne.2 h, hk, ih]

end MemoryStore
end HostRouting
