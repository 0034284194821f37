import HostRouting.Proofs.Hosts.RuntimeDefaults

/-!
# Defaults by their history

An update carries values for some of the defaults and leaves the others alone, so after any
sequence of changes each of them has the value of the latest update that carries one. A reset
forgets all updates before it. Both are said here of the updates since the last reset, the latest
first, and kept by one change after the other.

Requests hold on to the defaults that they have loaded while others are put in force. Below, the
defaults stand in shared snapshots: a change builds a new one or goes back to that of the start,
and never writes into one that exists. The handle is what this memory holds at the two places that
it points to, and what was loaded earlier stays where it is.
-/
namespace HostRouting
open Text

namespace DefaultsChange

def update? : DefaultsChange → Option DefaultsUpdate
  | .update u => some u
  | .reset => none

/-- The updates from the latest one back to the last reset. -/
def recent (changes : List DefaultsChange) : List DefaultsUpdate :=
  (changes.reverse.takeWhile (· ≠ .reset)).filterMap update?

variable (changes : List DefaultsChange)

theorem recent_concat_update (u : DefaultsUpdate) :
    recent (changes ++ [.update u]) = u :: recent changes := by
  simp [recent, update?]

theorem recent_concat_reset : recent (changes ++ [.reset]) = [] := by
  simp [recent]

end DefaultsChange

/-- A text that a service can be called by: none if it is blank. -/
def named? (t : Text) : Option Text := if isBlank t then none else some t

/-- The defaults `now` are those of `start` with the latest values of the updates, which are given
the latest first. -/
structure Defaults.Follows (start : Defaults) (updates : List DefaultsUpdate) (now : Defaults) :
    Prop where
  apiKey : now.store.apiKey = (updates.findSome? (·.apiKey)).getD start.store.apiKey
  apiDomain : now.store.apiDomain = (updates.findSome? (·.apiDomain)).getD start.store.apiDomain
  applicationId : now.store.applicationId =
    (updates.findSome? (·.applicationId)).getD start.store.applicationId
  backendService : now.routing.backendService =
    (updates.findSome? (·.backendService)).getD start.routing.backendService
  frontendService : now.routing.frontendService =
    (updates.findSome? (·.frontendService)).getD start.routing.frontendService
  singleService : now.routing.singleService =
    ((updates.findSome? (·.singleService)).map named?).getD start.routing.singleService
  singleServicePort : now.routing.singleServicePort =
    (updates.findSome? (·.singleServicePort)).or start.routing.singleServicePort
  skipMiddlewares : now.routing.skipMiddlewares =
    (updates.findSome? (·.skipMiddlewares)).getD start.routing.skipMiddlewares
  certResolver : now.routing.certResolver = start.routing.certResolver
  redirectMiddleware : now.routing.redirectMiddleware = start.routing.redirectMiddleware
  strictMatching : now.routing.strictMatching = start.routing.strictMatching

section
variable {α β : Type} {carried : DefaultsUpdate → Option α} {u : DefaultsUpdate}
  {updates : List DefaultsUpdate}

/-- What an update carries is the latest value, and without one the latest value is as before. -/
theorem findSome?_cons_eq_or :
    (u :: updates).findSome? carried = (carried u).or (updates.findSome? carried) := by
  rw [List.findSome?_cons]
  cases carried u <;> rfl

theorem getD_findSome?_cons {start now : α}
    (h : now = (updates.findSome? carried).getD start) :
    (carried u).getD now = ((u :: updates).findSome? carried).getD start := by
  rw [findSome?_cons_eq_or, h]
  cases carried u <;> rfl

theorem getD_map_findSome?_cons {f : α → β} {start now : β}
    (h : now = ((updates.findSome? carried).map f).getD start) :
    ((carried u).map f).getD now = (((u :: updates).findSome? carried).map f).getD start := by
  rw [findSome?_cons_eq_or, h]
  cases carried u <;> rfl

theorem or_findSome?_cons {start now : Option α}
    (h : now = (updates.findSome? carried).or start) :
    (carried u).or now = ((u :: updates).findSome? carried).or start := by
  rw [findSome?_cons_eq_or, h, Option.or_assoc]

end

namespace Defaults.Follows

variable {start now : Defaults} {updates : List DefaultsUpdate}

theorem refl (start : Defaults) : Follows start [] start :=
  ⟨rfl, rfl, rfl, rfl, rfl, rfl, rfl, rfl, rfl, rfl, rfl⟩

theorem apply (h : Follows start updates now) (u : DefaultsUpdate) :
    Follows start (u :: updates) (u.apply now) where
  apiKey := getD_findSome?_cons h.apiKey
  apiDomain := getD_findSome?_cons h.apiDomain
  applicationId := getD_findSome?_cons h.applicationId
  backendService := getD_findSome?_cons h.backendService
  frontendService := getD_findSome?_cons h.frontendService
  singleService := by
    rw [← getD_map_findSome?_cons h.singleService]
    unfold DefaultsUpdate.apply
    cases u.singleService <;> rfl
  singleServicePort := or_findSome?_cons h.singleServicePort
  skipMiddlewares := getD_findSome?_cons h.skipMiddlewares
  certResolver := h.certResolver
  redirectMiddleware := h.redirectMiddleware
  strictMatching := h.strictMatching

end Defaults.Follows

namespace DefaultsHandle

theorem run_append (h : DefaultsHandle) (before after : List DefaultsChange) :
    h.run (before ++ after) = (h.run before).run after := List.foldl_append

theorem run_concat (h : DefaultsHandle) (changes : List DefaultsChange) (last : DefaultsChange) :
    h.run (changes ++ [last]) = (h.run changes).change last := run_append h changes [last]

theorem initial_run (h : DefaultsHandle) (changes : List DefaultsChange) :
    (h.run changes).initial = h.initial := by
  induction changes generalizing h with
  | nil => rfl
  | cons first rest ih =>
      cases first with
      | update u => exact ih (h.update u)
      | reset => exact ih h.reset

theorem follows_run (d : Defaults) (changes : List DefaultsChange) :
    d.Follows (DefaultsChange.recent changes) ((start d).run changes).current := by
  induction changes using List.reverseRecOn with
  | nil => exact .refl d
  | append_singleton changes last ih =>
      rw [run_concat]
      cases last with
      | update u =>
          rw [DefaultsChange.recent_concat_update]
          exact ih.apply u
      | reset =>
          have hinitial : ((start d).run changes).initial = d := initial_run (start d) changes
          rw [DefaultsChange.recent_concat_reset, change, reset, hinitial]
          exact .refl d

end DefaultsHandle

/-- Defaults in shared snapshots, in the order in which they were built, with the places of those
of the start and of those in force. -/
structure SharedDefaults where
  snapshots : List Defaults
  initial : Fin snapshots.length
  current : Fin snapshots.length

namespace SharedDefaults

def start (d : Defaults) : SharedDefaults := ⟨[d], 0, 0⟩

/-- The snapshot in force, which a request loads and keeps. -/
def load (s : SharedDefaults) : Defaults := s.snapshots.get s.current

/-- An update builds a new snapshot from a copy of the one in force, and a reset points back to the
first. -/
def change (s : SharedDefaults) : DefaultsChange → SharedDefaults
  | .update u =>
    { snapshots := s.snapshots ++ [u.apply s.load]
      initial := s.initial.castLE (by simp)
      current := ⟨s.snapshots.length, by simp⟩ }
  | .reset => { s with current := s.initial }

def run (s : SharedDefaults) (changes : List DefaultsChange) : SharedDefaults :=
  changes.foldl change s

/-- The defaults that the two places hold. -/
def handle (s : SharedDefaults) : DefaultsHandle := ⟨s.snapshots.get s.initial, s.load⟩

theorem handle_change (s : SharedDefaults) (c : DefaultsChange) :
    (s.change c).handle = s.handle.change c := by
  cases c with
  | update u =>
      have hinitial : (s.change (.update u)).snapshots.get (s.change (.update u)).initial =
          s.snapshots.get s.initial := by
        simp [change]
      have hcurrent : (s.change (.update u)).load = u.apply s.load := by
        simp [change, load]
      rw [handle, hinitial, hcurrent]
      rfl
  | reset => rfl

theorem handle_run (s : SharedDefaults) (changes : List DefaultsChange) :
    (s.run changes).handle = s.handle.run changes := by
  induction changes generalizing s with
  | nil => rfl
  | cons first rest ih =>
      exact (ih (s.change first)).trans (congrArg (·.run rest) (s.handle_change first))

/-- No change writes into a snapshot. -/
theorem snapshots_prefix_run (s : SharedDefaults) (changes : List DefaultsChange) :
    s.snapshots <+: (s.run changes).snapshots := by
  induction changes generalizing s with
  | nil => exact List.prefix_rfl
  | cons first rest ih =>
      have hfirst : s.snapshots <+: (s.change first).snapshots := by
        cases first with
        | update u => exact List.prefix_append ..
        | reset => exact List.prefix_rfl
      exact hfirst.trans (ih (s.change first))

/-- What a request has loaded is what the handle held then, whatever has been changed since. -/
theorem snapshot_run (s : SharedDefaults) (later : List DefaultsChange) :
    (s.run later).snapshots[s.current.val]? = some s.handle.current := by
  obtain ⟨built, hbuilt⟩ := s.snapshots_prefix_run later
  rw [← hbuilt, List.getElem?_append_left s.current.isLt, List.getElem?_eq_getElem s.current.isLt]
  rfl

end SharedDefaults

/-- After any updates and resets the defaults in force have the latest values since the last reset,
and those of the start where there is none. What was loaded from them is still the same after any
later changes. -/
theorem DefaultsHandle.defaults_follow_history (d : Defaults) (changes : List DefaultsChange) :
    d.Follows (DefaultsChange.recent changes) ((start d).run changes).current ∧
      ((SharedDefaults.start d).run changes).handle = (start d).run changes ∧
      ∀ later, (((SharedDefaults.start d).run changes).run later).snapshots[
          ((SharedDefaults.start d).run changes).current.val]? =
        some ((start d).run changes).current := by
  have hshared : ((SharedDefaults.start d).run changes).handle = (start d).run changes :=
    (SharedDefaults.start d).handle_run changes
  refine ⟨follows_run d changes, hshared, fun later => ?_⟩
  rw [SharedDefaults.snapshot_run, hshared]

end HostRouting
