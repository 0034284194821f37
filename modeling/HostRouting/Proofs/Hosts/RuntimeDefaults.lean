import HostRouting.Proofs.Hosts.Resolution

/-!
# Plans under changing defaults

While the service runs its defaults are updated and set back any number of times. What every update
keeps, and the start has, holds of the defaults in force after every run. An update drops a blank
single service but takes a backend or a frontend as it is given, and a plan is refused for an empty
name only. So a name of white space alone, once it is a default, comes into every plan in which
nothing stands in for it; where no update brings such a name, and the configuration did not, no plan
has a blank name.
-/
namespace HostRouting
open Text

/-- A change of the defaults while the service runs. -/
inductive DefaultsChange where
  | update (update : DefaultsUpdate)
  | reset
  deriving DecidableEq, Repr

namespace DefaultsHandle

variable {h : DefaultsHandle} {changes : List DefaultsChange}

def change (h : DefaultsHandle) : DefaultsChange → DefaultsHandle
  | .update u => h.update u
  | .reset => h.reset

/-- The defaults after changes, the first of them first. -/
def run (h : DefaultsHandle) (changes : List DefaultsChange) : DefaultsHandle :=
  changes.foldl change h

/-- What the start has and every update keeps holds of the defaults in force. -/
theorem current_run {P : Defaults → Prop} (hinitial : P h.initial) (hcurrent : P h.current)
    (hkeeps : ∀ u, .update u ∈ changes → ∀ d, P d → P (u.apply d)) : P (h.run changes).current := by
  induction changes generalizing h with
  | nil => exact hcurrent
  | cons first rest ih =>
      have hrest : ∀ u, .update u ∈ rest → ∀ d, P d → P (u.apply d) :=
        fun u hu => hkeeps u (List.mem_cons_of_mem _ hu)
      cases first with
      | update u =>
          exact ih (h := h.update u) hinitial (hkeeps u List.mem_cons_self _ hcurrent) hrest
      | reset => exact ih (h := h.reset) hinitial hinitial hrest

end DefaultsHandle

/-- White space and nothing else: no name can be seen in it, but it is not empty. -/
def Invisible (t : Text) : Prop := t ≠ [] ∧ isBlank t = true

instance : DecidablePred Invisible := fun t =>
  inferInstanceAs (Decidable (t ≠ [] ∧ isBlank t = true))

/-- No name of the update is invisible. -/
structure DefaultsUpdate.Tidy (u : DefaultsUpdate) : Prop where
  backend : ∀ t ∈ u.backendService, ¬ Invisible t
  frontend : ∀ t ∈ u.frontendService, ¬ Invisible t

namespace RoutingConfig

/-- Neither of the two names is invisible. -/
structure Tidy (r : RoutingConfig) : Prop where
  backend : ¬ Invisible r.backendService
  frontend : ¬ Invisible r.frontendService

variable {r : RoutingConfig} {d : Defaults} {u : DefaultsUpdate} {o : Overrides}
  {plan : RoutingPlan}

theorem Ready.tidy (h : r.Ready) (hs : r.singleService = none) : r.Tidy := by
  obtain ⟨hbackend, hfrontend⟩ := h.isBlank_pair (hs ▸ unnamed_none)
  constructor
  · rintro ⟨-, hblank⟩
    rw [hbackend] at hblank
    cases hblank
  · rintro ⟨-, hblank⟩
    rw [hfrontend] at hblank
    cases hblank

theorem not_invisible_getD {given : Option Text} {t : Text} (hg : ∀ s ∈ given, ¬ Invisible s)
    (ht : ¬ Invisible t) : ¬ Invisible (given.getD t) := by
  cases given with
  | none => exact ht
  | some s => exact hg s rfl

theorem Tidy.apply (h : d.routing.Tidy) (hu : u.Tidy) : (u.apply d).routing.Tidy :=
  ⟨not_invisible_getD hu.backend h.backend, not_invisible_getD hu.frontend h.frontend⟩

theorem isBlank_pick_of_not_invisible {given : Option Text} {default : Text}
    (h : ¬ Invisible default) (hne : pick given default ≠ []) :
    isBlank (pick given default) = false := by
  rw [Bool.eq_false_iff]
  intro hb
  obtain ⟨hg, hdefault⟩ := isBlank_pick_iff.mp hb
  exact h ⟨fun hnil => hne (pick_eq_nil_iff.mpr ⟨hg, hnil⟩), hdefault⟩

theorem Tidy.isBlank_services (h : r.Tidy) (hp : o.plan r = .ok plan) :
    isBlank plan.backend = false ∧ isBlank plan.frontend = false := by
  cases Overrides.names_of_plan hp with
  | shared asked one =>
      rw [one]
      exact ⟨Overrides.isBlank_of_sharedService? asked, Overrides.isBlank_of_sharedService? asked⟩
  | pair unasked backend frontend known =>
      rw [backend, frontend] at known ⊢
      exact ⟨isBlank_pick_of_not_invisible h.backend known.1,
        isBlank_pick_of_not_invisible h.frontend known.2⟩

end RoutingConfig

namespace AppConfig

variable {c : AppConfig} {changes : List DefaultsChange} {d : Defaults} {o : Overrides}
  {request : ResolvedRequest}

/-- A plan that is made while the service runs has a blank name exactly where a blank default
stands in it, and none if no invisible name has been brought in. -/
theorem blank_service_after_changes (hc : c.problems = [])
    (hd : ((DefaultsHandle.start (.ofConfig c)).run changes).current = d)
    (h : o.resolve d = .ok request) :
    (isBlank request.plan.backend = true ↔ o.sharedService? d.routing = none ∧
      Unnamed o.backendService ∧ isBlank d.routing.backendService = true) ∧
    (isBlank request.plan.frontend = true ↔ o.sharedService? d.routing = none ∧
      Unnamed o.frontendService ∧ isBlank d.routing.frontendService = true) ∧
    ((c.routing.singleService = none ∨ c.routing.Tidy) → (∀ u, .update u ∈ changes → u.Tidy) →
      isBlank request.plan.backend = false ∧ isBlank request.plan.frontend = false) := by
  have hplan : o.plan d.routing = .ok request.plan := (Overrides.resolve_eq_ok_iff.mp h).1
  obtain ⟨hbackend, hfrontend⟩ := Overrides.isBlank_services_iff hplan
  refine ⟨hbackend, hfrontend, fun hstart hupdates => ?_⟩
  have htidy : c.routing.Tidy := by
    rcases hstart with hs | htidy
    · exact (ready_of_problems hc).tidy hs
    · exact htidy
  have hrun : d.routing.Tidy := by
    rw [← hd]
    exact DefaultsHandle.current_run (P := fun d => d.routing.Tidy) htidy htidy
      fun u hu d hd => hd.apply (hupdates u hu)
  exact hrun.isBlank_services hplan

/-- A shared service and no backend, both set back, and then another frontend. -/
def sampleChanges : List DefaultsChange :=
  [.update { singleService := some "mono".toList, backendService := some [] }, .reset,
    .update { frontendService := some " v2".toList }]

theorem blank_service_after_changes_sample : ∃ request,
    ({ backendService := some "\t".toList } : Overrides).resolve
        ((DefaultsHandle.start (.ofConfig twoNames)).run sampleChanges).current = .ok request ∧
      isBlank request.plan.backend = false ∧ isBlank request.plan.frontend = false := by
  have hvalid : twoNames.problems = [] := by decide
  have htidy : ∀ u, .update u ∈ sampleChanges → u.Tidy := by
    intro u hu
    simp only [sampleChanges, List.mem_cons, DefaultsChange.update.injEq, List.not_mem_nil,
      or_false, reduceCtorEq, false_or] at hu
    rcases hu with rfl | rfl
    · exact ⟨by decide, by decide⟩
    · exact ⟨by decide, by decide⟩
  obtain ⟨request, h⟩ : ∃ request, ({ backendService := some "\t".toList } : Overrides).resolve
      ((DefaultsHandle.start (.ofConfig twoNames)).run sampleChanges).current = .ok request :=
    ⟨_, rfl⟩
  exact ⟨request, h, (blank_service_after_changes hvalid rfl h).2.2 (.inl rfl) htidy⟩

/-- White space that an update makes the backend is in the next plan. -/
theorem resolve_accepts_invisible_service : twoNames.problems = [] ∧ ∃ request,
    ({} : Overrides).resolve ((DefaultsHandle.start (.ofConfig twoNames)).run
      [.update { backendService := some " ".toList }]).current = .ok request ∧
      isBlank request.plan.backend = true :=
  ⟨by decide, _, rfl, by decide⟩

end AppConfig
end HostRouting
