import HostRouting.Config.Validation
import HostRouting.Hosts.Overrides
import HostRouting.Proofs.Text.Trimming

/-!
# The services of a plan

A plan has one shared service, named by the call or else by the defaults, or it has a backend and a
frontend, each named by the call or else by the defaults. A name that a call gives, and that of a
shared service, counts only if something of it is visible; the two defaults count as they stand. So
a blank name comes into a plan in one way, as a default that nothing overrides, and there is no plan
exactly where such a default is empty. A configuration without problems names what it has to.
-/
namespace HostRouting
open Text

section
variable {given : Option Text} {default t name : Text}

theorem nonBlank?_eq_none_iff : nonBlank? t = none ↔ isBlank t = true := by
  rw [nonBlank?, ← trim_eq_nil_iff]
  simp

theorem nonBlank?_eq_some_iff : nonBlank? t = some name ↔ isBlank t = false ∧ trim t = name := by
  rw [nonBlank?, Bool.eq_false_iff, ne_eq, ← trim_eq_nil_iff]
  by_cases h : trim t = [] <;> simp [h]

theorem bind_nonBlank?_eq_none_iff :
    given.bind nonBlank? = none ↔ ∀ t ∈ given, isBlank t = true := by
  simp only [Option.bind_eq_none_iff, nonBlank?_eq_none_iff, Option.mem_def]

theorem isBlank_of_bind_nonBlank? (h : given.bind nonBlank? = some name) :
    isBlank name = false := by
  obtain ⟨t, -, ht⟩ := Option.bind_eq_some_iff.mp h
  obtain ⟨hb, rfl⟩ := nonBlank?_eq_some_iff.mp ht
  rw [isBlank_trim, hb]

/-- The given text is absent or blank, so that the default stands. -/
def Unnamed (given : Option Text) : Prop := ∀ t ∈ given, isBlank t = true

theorem unnamed_none : Unnamed none := fun _ ht => nomatch ht

theorem unnamed_some_iff : Unnamed (some t) ↔ isBlank t = true := by
  simp [Unnamed]

theorem pick_cases (given : Option Text) (default : Text) :
    (Unnamed given ∧ pick given default = default) ∨
      (¬ Unnamed given ∧ isBlank (pick given default) = false) := by
  unfold Unnamed pick
  rw [← bind_nonBlank?_eq_none_iff]
  cases h : given.bind nonBlank? with
  | none => exact .inl ⟨rfl, rfl⟩
  | some name => exact .inr ⟨Option.some_ne_none name, isBlank_of_bind_nonBlank? h⟩

theorem isBlank_pick_iff :
    isBlank (pick given default) = true ↔ Unnamed given ∧ isBlank default = true := by
  rcases pick_cases given default with ⟨hg, hp⟩ | ⟨hg, hp⟩
  · rw [hp]
    exact (and_iff_right hg).symm
  · simp [hp, hg]

theorem pick_eq_nil_iff : pick given default = [] ↔ Unnamed given ∧ default = [] := by
  rcases pick_cases given default with ⟨hg, hp⟩ | ⟨hg, hp⟩
  · rw [hp]
    exact (and_iff_right hg).symm
  · refine iff_of_false (fun hnil => ?_) fun h => hg h.1
    rw [hnil] at hp
    cases hp

end

namespace Overrides

variable {o : Overrides} {r : RoutingConfig} {plan : RoutingPlan}

theorem sharedService?_eq_none_iff :
    o.sharedService? r = none ↔ Unnamed o.serviceName ∧ Unnamed r.singleService := by
  unfold sharedService? Unnamed
  simp only [Option.or_eq_none_iff, Option.map_eq_none_iff, bind_nonBlank?_eq_none_iff]

theorem isBlank_of_sharedService? {service : Text} {port : UInt16}
    (h : o.sharedService? r = some (service, port)) : isBlank service = false := by
  rcases Option.or_eq_some_iff.mp h with h | ⟨-, h⟩
  · obtain ⟨name, hname, he⟩ := Option.map_eq_some_iff.mp h
    obtain rfl : name = service := congrArg Prod.fst he
    exact isBlank_of_bind_nonBlank? hname
  · obtain ⟨name, hname, he⟩ := Option.map_eq_some_iff.mp h
    obtain rfl : name = service := congrArg Prod.fst he
    exact isBlank_of_bind_nonBlank? hname

theorem plan_of_shared {service : Text} {port : UInt16}
    (h : o.sharedService? r = some (service, port)) :
    o.plan r = .ok (o.planFor r service service false port) := by
  rw [plan, h]

theorem plan_of_pair (h : o.sharedService? r = none)
    (hb : pick o.backendService r.backendService ≠ [])
    (hf : pick o.frontendService r.frontendService ≠ []) :
    o.plan r = .ok (o.planFor r (pick o.backendService r.backendService)
      (pick o.frontendService r.frontendService)
      (pick o.backendService r.backendService ≠ pick o.frontendService r.frontendService)
      defaultPort) := by
  rw [plan, h]
  simp [hb, hf]

/-- There is no plan exactly where no service is shared and an empty default is not overridden. -/
theorem plan_eq_error_iff {error : OperationError} :
    o.plan r = .error error ↔ error = .servicesRequired ∧ o.sharedService? r = none ∧
      (pick o.backendService r.backendService = [] ∨
        pick o.frontendService r.frontendService = []) := by
  cases hs : o.sharedService? r with
  | some s =>
      rw [plan_of_shared hs]
      simp
  | none =>
      rw [plan, hs]
      simp only [List.isEmpty_iff, Bool.or_eq_true, true_and]
      split_ifs with h
      · simp [h, eq_comm]
      · simp [h]

/-- The plans of a call differ in their services and ports only. -/
theorem exists_planFor_of_plan (h : o.plan r = .ok plan) :
    ∃ backend frontend separate port, plan = o.planFor r backend frontend separate port := by
  unfold Overrides.plan at h
  split at h
  · exact ⟨_, _, _, _, (Except.ok.inj h).symm⟩
  · dsimp only at h
    split_ifs at h
    exact ⟨_, _, _, _, (Except.ok.inj h).symm⟩

/-- What is known of the services of a plan. -/
inductive Names (o : Overrides) (r : RoutingConfig) (plan : RoutingPlan) : Prop
  | shared (asked : o.sharedService? r = some (plan.backend, plan.port))
    (one : plan.frontend = plan.backend) (joined : plan.separate = false)
  | pair (unasked : o.sharedService? r = none)
    (backend : plan.backend = pick o.backendService r.backendService)
    (frontend : plan.frontend = pick o.frontendService r.frontendService)
    (known : plan.backend ≠ [] ∧ plan.frontend ≠ [])
    (joined : plan.separate = decide (plan.backend ≠ plan.frontend))

theorem names_of_plan (h : o.plan r = .ok plan) : Names o r plan := by
  cases hs : o.sharedService? r with
  | some s =>
      rw [plan_of_shared hs, Except.ok.injEq] at h
      subst h
      exact .shared hs rfl rfl
  | none =>
      by_cases hnil : pick o.backendService r.backendService = [] ∨
          pick o.frontendService r.frontendService = []
      · rw [plan_eq_error_iff.mpr ⟨rfl, hs, hnil⟩] at h
        cases h
      · rw [not_or] at hnil
        rw [plan_of_pair hs hnil.1 hnil.2, Except.ok.injEq] at h
        subst h
        exact .pair hs rfl rfl hnil rfl

/-- A name in a plan is blank exactly if it is a blank default that nothing stands in for. -/
theorem isBlank_services_iff (h : o.plan r = .ok plan) :
    (isBlank plan.backend = true ↔ o.sharedService? r = none ∧ Unnamed o.backendService ∧
      isBlank r.backendService = true) ∧
    (isBlank plan.frontend = true ↔ o.sharedService? r = none ∧ Unnamed o.frontendService ∧
      isBlank r.frontendService = true) := by
  cases names_of_plan h with
  | shared asked one =>
      have hb := isBlank_of_sharedService? asked
      rw [one, hb, asked]
      simp
  | pair unasked backend frontend =>
      rw [backend, frontend, isBlank_pick_iff, isBlank_pick_iff, unasked]
      simp

theorem resolve_eq_ok_iff {d : Defaults} {request : ResolvedRequest} :
    o.resolve d = .ok request ↔
      o.plan d.routing = .ok request.plan ∧ request.target = o.resolveTarget d := by
  unfold resolve
  cases o.plan d.routing with
  | error error => simp [Except.map]
  | ok plan =>
      cases request
      simp [Except.map, eq_comm, and_comm]

end Overrides

namespace RoutingConfig

variable {r : RoutingConfig}

/-- A plan can be made without a call that names a service. -/
def Ready (r : RoutingConfig) : Prop :=
  match r.singleService with
  | some service => isBlank service = false
  | none => isBlank r.backendService = false ∧ isBlank r.frontendService = false

theorem problemIf_eq_nil_iff {condition : Bool} {field message : Text} :
    problemIf condition field message = [] ↔ condition = false := by
  cases condition <;> simp [problemIf]

theorem serviceProblems_eq_nil_iff : r.serviceProblems = [] ↔ r.Ready := by
  unfold serviceProblems Ready
  cases r.singleService with
  | some service => exact problemIf_eq_nil_iff
  | none =>
      dsimp only
      rw [List.append_eq_nil_iff, problemIf_eq_nil_iff, problemIf_eq_nil_iff]

theorem Ready.isBlank_pair (h : r.Ready) (hs : Unnamed r.singleService) :
    isBlank r.backendService = false ∧ isBlank r.frontendService = false := by
  unfold Ready at h
  cases hsingle : r.singleService with
  | some service =>
      rw [hsingle] at h hs
      have hvisible : isBlank service = false := h
      rw [unnamed_some_iff.mp hs] at hvisible
      cases hvisible
  | none =>
      rw [hsingle] at h
      exact h

theorem Ready.exists_plan (h : r.Ready) (o : Overrides) : ∃ plan, o.plan r = .ok plan ∧
    isBlank plan.backend = false ∧ isBlank plan.frontend = false := by
  have hpair : o.sharedService? r = none →
      isBlank r.backendService = false ∧ isBlank r.frontendService = false :=
    fun hs => h.isBlank_pair (Overrides.sharedService?_eq_none_iff.mp hs).2
  cases hp : o.plan r with
  | error error =>
      obtain ⟨-, hs, hnil⟩ := Overrides.plan_eq_error_iff.mp hp
      obtain ⟨hb, hf⟩ := hpair hs
      rw [pick_eq_nil_iff, pick_eq_nil_iff] at hnil
      rcases hnil with ⟨-, hnil⟩ | ⟨-, hnil⟩
      · rw [hnil] at hb
        cases hb
      · rw [hnil] at hf
        cases hf
  | ok plan =>
      obtain ⟨hbackend, hfrontend⟩ := Overrides.isBlank_services_iff hp
      refine ⟨plan, rfl, ?_, ?_⟩
      · rw [Bool.eq_false_iff, ne_eq, hbackend]
        rintro ⟨hs, -, hb⟩
        rw [(hpair hs).1] at hb
        cases hb
      · rw [Bool.eq_false_iff, ne_eq, hfrontend]
        rintro ⟨hs, -, hf⟩
        rw [(hpair hs).2] at hf
        cases hf

end RoutingConfig

namespace AppConfig

theorem ready_of_problems {c : AppConfig} (h : c.problems = []) : c.routing.Ready := by
  simp only [problems, RoutingConfig.problems, List.append_eq_nil_iff] at h
  exact RoutingConfig.serviceProblems_eq_nil_iff.mp h.1.1.2.1

/-- A configuration without problems gives every call a plan, and each service in it has a name. -/
theorem resolve_of_problems_eq_nil {c : AppConfig} (h : c.problems = []) (o : Overrides) :
    ∃ request, o.resolve (.ofConfig c) = .ok request ∧
      isBlank request.plan.backend = false ∧ isBlank request.plan.frontend = false := by
  obtain ⟨plan, hplan, hnames⟩ := (ready_of_problems h).exists_plan o
  exact ⟨⟨o.resolveTarget (.ofConfig c), plan⟩,
    Overrides.resolve_eq_ok_iff.mpr ⟨hplan, rfl⟩, hnames⟩

/-- A configuration that names the two services and leaves all else as it is. -/
def twoNames : AppConfig :=
  { routing := { backendService := "api".toList, frontendService := "web".toList } }

theorem resolve_of_problems_eq_nil_sample : ∃ request,
    ({ serviceName := some " ".toList, servicePort := some 0, frontendService := some "\t".toList } :
      Overrides).resolve (.ofConfig twoNames) = .ok request ∧
      isBlank request.plan.backend = false ∧ isBlank request.plan.frontend = false := by
  have hvalid : twoNames.problems = [] := by decide
  exact resolve_of_problems_eq_nil hvalid _

end AppConfig
end HostRouting
