import HostRouting.Proofs.Cli.LocalPlans
import HostRouting.Proofs.Document.Rendering

/-!
# The port of a shared service

A plan comes to one shared service in three ways: the call names it, the defaults name it, or the
backend and the frontend turn out to be the same. Only a service that is named has a port of its
own, that of the call before that of the defaults; a pair that turns out equal has the standard
port, whatever port the call gives. The definition is written with the port of the plan.
-/
namespace HostRouting
open Text

/-- The line of a definition that sends the traffic to a service at a port. -/
def serverLine (service : Text) (port : UInt16) : Text :=
  "    - url: http://".toList ++ service ++ [':'] ++ ofNat port.toNat

namespace RoutingPlan

variable {plan : RoutingPlan} {policy : MatchPolicy} {e : Entity} {port : UInt16}

/-- A line that begins with a space is neither the comment nor the name of a definition. -/
theorem ne_of_head?_eq_space {line row : Text} (h : line.head? = some ' ') (hrow : trim row = row) :
    line ≠ row := by
  rintro rfl
  have hvisible : isSpace ' ' = false := head?_of_trim hrow ' ' h
  cases hvisible

/-- A definition sends the traffic to the service of its plan at the port of the plan only. -/
theorem serverLine_mem_serviceLines_iff :
    serverLine plan.backend port ∈ plan.serviceLines policy e ↔ plan.port = port := by
  have hname : trim (BlockKind.service.name (policy.tag e) ++ [':']) =
      BlockKind.service.name (policy.tag e) ++ [':'] := by
    have htrim := BlockKind.service.trim_name_append policy e []
    rwa [List.append_nil] at htrim
  rw [mem_serviceLines]
  constructor
  · intro h
    rcases h with h | h | h | h | h | h | h
    · exact absurd h (ne_of_head?_eq_space rfl (BlockKind.service.trim_comment e))
    · exact absurd h (ne_of_head?_eq_space rfl hname)
    · have hchar : some ' ' = some 'l' := congrArg (·[2]?) h
      cases hchar
    · have hchar : some '-' = some 's' := congrArg (·[4]?) h
      cases hchar
    · unfold serverLine at h
      have hdigits : ofNat port.toNat = ofNat plan.port.toNat := List.append_cancel_left h
      rw [ofNat_inj, UInt16.toNat_inj] at hdigits
      exact hdigits.symm
    · have hchar : some '-' = some 'p' := congrArg (·[4]?) h
      cases hchar
    · cases h
  · rintro rfl
    exact .inr (.inr (.inr (.inr (.inl rfl))))

end RoutingPlan

namespace Overrides

variable {o : Overrides} {r : RoutingConfig} {d : Defaults} {plan : RoutingPlan}
  {request : ResolvedRequest} {p : UInt16}

/-- The call or the defaults name a shared service. -/
def NamesShared (o : Overrides) (r : RoutingConfig) : Prop :=
  ¬ Unnamed o.serviceName ∨ ¬ Unnamed r.singleService

theorem sharedService?_ne_none_iff : o.sharedService? r ≠ none ↔ o.NamesShared r := by
  rw [ne_eq, sharedService?_eq_none_iff, not_and_or, NamesShared]

/-- A shared service that is named has the port of the call. -/
theorem port_of_sharedService? {service : Text} {port : UInt16}
    (h : o.sharedService? r = some (service, port)) (hp : o.servicePort = some p) : port = p := by
  simp only [sharedService?, hp, Option.getD_some, Option.or_eq_some_iff,
    Option.map_eq_some_iff, Prod.mk.injEq] at h
  rcases h with ⟨_, -, -, hport⟩ | ⟨-, _, -, -, hport⟩
  · exact hport.symm
  · exact hport.symm

/-- A pair has the standard port, also where it turns out to be one service. -/
theorem port_of_pair (h : o.plan r = .ok plan) (hs : o.sharedService? r = none) :
    plan.port = defaultPort := by
  have hknown : ¬ (pick o.backendService r.backendService = [] ∨
      pick o.frontendService r.frontendService = []) := by
    intro hnil
    rw [plan_eq_error_iff.mpr ⟨rfl, hs, hnil⟩] at h
    cases h
  rw [not_or] at hknown
  rw [plan_of_pair hs hknown.1 hknown.2, Except.ok.injEq] at h
  rw [← h]
  rfl

theorem port_eq_iff (h : o.plan r = .ok plan) (hp : o.servicePort = some p) :
    plan.port = p ↔ o.NamesShared r ∨ p = defaultPort := by
  rw [← sharedService?_ne_none_iff]
  cases hs : o.sharedService? r with
  | none =>
      rw [port_of_pair h hs]
      simp [eq_comm]
  | some shared =>
      obtain ⟨service, port⟩ := shared
      rw [plan_of_shared hs, Except.ok.injEq] at h
      refine iff_of_true ?_ (.inl (Option.some_ne_none _))
      rw [← h, ← port_of_sharedService? hs hp]
      rfl

theorem separate_eq_false_iff (h : o.plan r = .ok plan) : plan.separate = false ↔
    o.NamesShared r ∨
      pick o.backendService r.backendService = pick o.frontendService r.frontendService := by
  rw [← sharedService?_ne_none_iff]
  cases names_of_plan h with
  | shared asked one joined => simp [joined, asked]
  | pair unasked backend frontend known joined => simp [joined, unasked, backend, frontend]

/-- A plan has one service if the call or the defaults name it, or if the two names are the same.
The port of the call is that of the plan, and of the definition written from it, only in the first
case, or where it is the standard port anyway. -/
theorem port_of_shared_plan (h : o.resolve d = .ok request) (hp : o.servicePort = some p) :
    (request.plan.separate = false ↔ o.NamesShared d.routing ∨
        pick o.backendService d.routing.backendService =
          pick o.frontendService d.routing.frontendService) ∧
      (request.plan.port = p ↔ o.NamesShared d.routing ∨ p = defaultPort) ∧
      ∀ policy e, serverLine request.plan.backend p ∈ request.plan.serviceLines policy e ↔
        o.NamesShared d.routing ∨ p = defaultPort := by
  have hplan : o.plan d.routing = .ok request.plan := (resolve_eq_ok_iff.mp h).1
  refine ⟨separate_eq_false_iff hplan, port_eq_iff hplan hp, fun policy e => ?_⟩
  rw [RoutingPlan.serverLine_mem_serviceLines_iff, port_eq_iff hplan hp]

/-- A call that names no service, for defaults that name one with a port of its own. -/
theorem port_of_shared_plan_sample : ∃ request,
    ({ serviceName := some " ".toList, servicePort := some 3000 } : Overrides).resolve
        { routing := { singleService := some " mono".toList, singleServicePort := some 9000 } } =
      .ok request ∧ request.plan.separate = false ∧
      serverLine request.plan.backend 3000 ∈
        request.plan.serviceLines .firstLabel Document.shopHost := by
  obtain ⟨request, h⟩ : ∃ request,
      ({ serviceName := some " ".toList, servicePort := some 3000 } : Overrides).resolve
          { routing := { singleService := some " mono".toList, singleServicePort := some 9000 } } =
        .ok request := ⟨_, rfl⟩
  obtain ⟨hshared, -, hserver⟩ := port_of_shared_plan h rfl
  have hnamed : NamesShared { serviceName := some " ".toList, servicePort := some 3000 }
      { singleService := some " mono".toList, singleServicePort := some 9000 } :=
    .inr fun hblank => absurd (hblank " mono".toList rfl) (by decide)
  exact ⟨request, h, hshared.mpr (.inl hnamed), (hserver _ _).mpr (.inl hnamed)⟩

/-- A call that makes the pair one service and gives it a port gets the standard port. -/
theorem port_of_joined_pair_ignored : ∃ request,
    ({ backendService := some "app".toList, frontendService := some "app".toList,
        servicePort := some 3000 } : Overrides).resolve (.ofConfig AppConfig.twoNames) =
      .ok request ∧ request.plan.separate = false ∧ request.plan.port = 8080 ∧
      serverLine "app".toList 8080 ∈
        request.plan.serviceLines .firstLabel Document.shopHost ∧
      serverLine "app".toList 3000 ∉
        request.plan.serviceLines .firstLabel Document.shopHost := by
  refine ⟨_, rfl, rfl, rfl, ?_, ?_⟩
  · decide
  · decide

end Overrides
end HostRouting
