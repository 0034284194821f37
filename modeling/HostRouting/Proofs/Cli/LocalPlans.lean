import HostRouting.Cli.Command
import HostRouting.Proofs.Document.Placement
import HostRouting.Proofs.Hosts.Resolution
import HostRouting.Proofs.Text.Words

/-!
# Plans with and without a service to ask

The options of a local routing make a plan of their own, and as the overrides of a call they make
the plan of the service. The local plan takes the names as they stand and has one service only where
one is named; the service trims every name, passes over a blank one and joins two equal ones. What a
plan writes tells the two apart: the routers of a shared service name no service of the plan, its
definition holds the name and the port, and every character of a separate service takes its room in
the routers. So both write the same blocks for the plain options, and for no others.
-/
namespace HostRouting
open Text

namespace Text

theorem ofNat_inj {m n : Nat} : ofNat m = ofNat n ↔ m = n := by
  refine ⟨fun h => ?_, congrArg ofNat⟩
  unfold ofNat at h
  rw [← Nat.ofDigitChars_toDigits (b := 10) (n := m) (by decide) (by decide), h,
    Nat.ofDigitChars_toDigits (by decide) (by decide)]

end Text

namespace Router

variable {name rule certResolver : Text} {a plain secure : Attachment} {resolver : Option Text}

theorem length_ofLines_lines (service : Text) :
    (ofLines (lines ⟨name, rule, service, a, resolver⟩)).length =
      (ofLines (lines ⟨name, rule, [], a, resolver⟩)).length + service.length := by
  simp only [lines, ofLines_append, ofLines_cons, ofLines_nil, List.length_append,
    List.length_cons, List.length_nil]
  omega

theorem length_ofLines_group (comment service : Text) :
    (ofLines (RoutingPlan.groupLines comment
        (pair name rule service certResolver plain secure))).length =
      (ofLines (RoutingPlan.groupLines comment
        (pair name rule [] certResolver plain secure))).length + 2 * service.length := by
  simp only [RoutingPlan.groupLines, pair, List.flatMap_cons, List.flatMap_nil, ofLines_append,
    ofLines_cons, List.length_append, List.length_cons, length_ofLines_lines service]
  omega

end Router

namespace RoutingPlan

variable {policy : MatchPolicy} {e : Entity} {p q : RoutingPlan}

/-- The plan without its services and its port. -/
def bare (p : RoutingPlan) : RoutingPlan :=
  { p with backend := [], frontend := [], port := defaultPort }

theorem routerBlock_of_shared (h : p.separate = false) :
    p.routerBlock policy e = p.bare.routerBlock policy e := by
  have hbare : p.bare.separate = false := h
  simp only [routerBlock, routerLines, h, hbare, Bool.false_eq_true, ↓reduceIte]
  rfl

/-- The routers name each of two separate services twice. -/
theorem length_routerBlock (h : p.separate = true) : (p.routerBlock policy e).length =
    (p.bare.routerBlock policy e).length + 2 * p.backend.length + 2 * p.frontend.length := by
  have hbare : p.bare.separate = true := h
  have hattached : p.bare.attachments = p.attachments := rfl
  simp only [routerBlock, routerLines, h, hbare, ↓reduceIte, ofLines_append, List.length_append,
    separatePair, hattached, Router.length_ofLines_group _ p.backend,
    Router.length_ofLines_group _ p.frontend]
  simp only [bare]
  omega

theorem serviceBlock_eq_iff : p.serviceBlock policy e = q.serviceBlock policy e ↔
    p.backend = q.backend ∧ p.port = q.port := by
  have hp : ':' ∉ ofNat p.port.toNat := not_mem_ofNat (by decide) _
  have hq : ':' ∉ ofNat q.port.toNat := not_mem_ofNat (by decide) _
  have hserver : p.serviceBlock policy e = q.serviceBlock policy e ↔
      p.backend ++ ':' :: ofNat p.port.toNat ++
          '\n' :: ofLines ["    passHostHeader: true".toList, []] =
        q.backend ++ ':' :: ofNat q.port.toNat ++
          '\n' :: ofLines ["    passHostHeader: true".toList, []] := by
    simp only [serviceBlock, serviceLines, ofLines_cons, List.append_assoc, List.cons_append,
      List.nil_append, List.append_cancel_left_eq, List.cons.injEq, true_and]
  rw [hserver, List.append_left_inj, separated_inj_last hp hq, ofNat_inj, UInt16.toNat_inj]

/-- Both plans write the same routers, and the same service block if they write one. -/
structure SameBlocks (policy : MatchPolicy) (e : Entity) (p q : RoutingPlan) : Prop where
  routers : p.routerBlock policy e = q.routerBlock policy e
  separate : p.separate = q.separate
  service : q.separate = false → p.serviceBlock policy e = q.serviceBlock policy e

theorem sameBlocks_shared_iff (hp : p.separate = false) (hq : q.separate = false)
    (hbare : p.bare = q.bare) :
    SameBlocks policy e p q ↔ p.backend = q.backend ∧ p.port = q.port := by
  constructor
  · intro h
    exact serviceBlock_eq_iff.mp (h.service hq)
  · intro h
    refine ⟨?_, hp.trans hq.symm, fun _ => serviceBlock_eq_iff.mpr h⟩
    rw [routerBlock_of_shared hp, routerBlock_of_shared hq, hbare]

/-- Separate services that lose characters at most lose none if the blocks are the same: neither can
be longer in `q`, so neither makes up for what the other one loses. -/
theorem sameBlocks_separate_iff (hp : p.separate = true) (hq : q.separate = true)
    (hbare : p.bare = q.bare) (hbackend : q.backend <:+: p.backend)
    (hfrontend : q.frontend <:+: p.frontend) :
    SameBlocks policy e p q ↔ q.backend = p.backend ∧ q.frontend = p.frontend := by
  constructor
  · intro h
    have hlength := congrArg List.length h.routers
    rw [length_routerBlock hp, length_routerBlock hq, hbare] at hlength
    have hb : q.backend.length ≤ p.backend.length := hbackend.length_le
    have hf : q.frontend.length ≤ p.frontend.length := hfrontend.length_le
    exact ⟨hbackend.eq_of_length (by omega), hfrontend.eq_of_length (by omega)⟩
  · rintro ⟨hb, hf⟩
    have hports : q = { p with port := q.port } := by
      cases p
      cases q
      simp_all [bare]
    refine ⟨?_, hp.trans hq.symm, fun h => ?_⟩
    · rw [hports]
      rfl
    · rw [hq] at h
      cases h

end RoutingPlan

theorem pick_some_nil (t : Text) : pick (some t) [] = trim t := by
  by_cases h : trim t = [] <;> simp [pick, nonBlank?, h]

namespace Cli.LocalRouting

/-- The options as what a call overrides. -/
def overrides (r : LocalRouting) : Overrides where
  backendService := some r.backend
  frontendService := some r.frontend
  serviceName := r.service
  servicePort := some r.port
  skipMiddlewares := some r.skipMiddlewares

/-- The options name the services as the service writes them: a shared one that is visible and
trimmed, or else two that are trimmed and differ. -/
def Plain (r : LocalRouting) : Prop :=
  match r.service with
  | some service => service ≠ [] ∧ trim service = service
  | none => trim r.backend = r.backend ∧ trim r.frontend = r.frontend ∧ r.backend ≠ r.frontend

variable {r : LocalRouting} {q : RoutingPlan} {policy : MatchPolicy} {e : Entity} {service : Text}

theorem sharedService?_overrides (r : LocalRouting) :
    r.overrides.sharedService? {} = (r.service.bind nonBlank?).map fun name => (name, r.port) := by
  simp [Overrides.sharedService?, overrides]

/-- Both plans take all but the services and the port from the same place. -/
theorem bare_plan (h : r.overrides.plan {} = .ok q) (hs : r.plan.separate = q.separate) :
    r.plan.bare = q.bare := by
  obtain ⟨backend, frontend, separate, port, rfl⟩ := Overrides.exists_planFor_of_plan h
  obtain rfl : r.plan.separate = separate := hs
  simp [plan, RoutingPlan.bare, Overrides.planFor, overrides]

theorem shared_plan (hs : r.service = some service) :
    r.plan.separate = false ∧ r.plan.backend = service := by
  simp [plan, hs]

theorem pair_plan (hs : r.service = none) : r.plan.separate = true ∧
    r.plan.backend = r.backend ∧ r.plan.frontend = r.frontend := by
  simp [plan, hs]

theorem sameBlocks_named_iff (h : r.overrides.plan {} = .ok q) (hs : r.service = some service)
    (hb : isBlank service = false) :
    RoutingPlan.SameBlocks policy e r.plan q ↔ trim service = service := by
  have hname : nonBlank? service = some (trim service) := nonBlank?_eq_some_iff.mpr ⟨hb, rfl⟩
  have hasked : r.overrides.sharedService? {} = some (trim service, r.port) := by
    rw [sharedService?_overrides, hs, Option.bind_some, hname, Option.map_some]
  obtain ⟨hlocal, hbackend⟩ := shared_plan hs
  cases Overrides.names_of_plan h with
  | shared asked one joined =>
      rw [hasked, Option.some.injEq, Prod.mk.injEq] at asked
      rw [RoutingPlan.sameBlocks_shared_iff hlocal joined (bare_plan h (hlocal.trans joined.symm)),
        hbackend, ← asked.1]
      exact ⟨fun hsame => hsame.1.symm, fun htrim => ⟨htrim.symm, asked.2⟩⟩
  | pair unasked =>
      rw [hasked] at unasked
      cases unasked

/-- Where no visible service is named, the service plans for the pair. -/
theorem pair_of_unnamed (h : r.overrides.plan {} = .ok q) (hs : Unnamed r.service) :
    q.backend = trim r.backend ∧ q.frontend = trim r.frontend ∧ q.backend ≠ [] ∧
      q.separate = decide (q.backend ≠ q.frontend) := by
  cases Overrides.names_of_plan h with
  | shared asked =>
      rw [sharedService?_overrides, bind_nonBlank?_eq_none_iff.mpr hs] at asked
      cases asked
  | pair unasked backend frontend known joined =>
      exact ⟨backend.trans (pick_some_nil _), frontend.trans (pick_some_nil _), known.1, joined⟩

/-- A blank service is no service for the shared plan, which names the trimmed backend instead. -/
theorem not_sameBlocks_of_blank (h : r.overrides.plan {} = .ok q) (hs : r.service = some service)
    (hb : isBlank service = true) : ¬ RoutingPlan.SameBlocks policy e r.plan q := by
  intro hsame
  have hunnamed : Unnamed r.service := by rwa [hs, unnamed_some_iff]
  obtain ⟨hbackend, -, hne, -⟩ := pair_of_unnamed h hunnamed
  obtain ⟨hlocal, hservice⟩ := shared_plan hs
  have hwritten : service = q.backend := by
    rw [← hservice]
    exact (RoutingPlan.serviceBlock_eq_iff.mp
      (hsame.service (hsame.separate.symm.trans hlocal))).1
  rw [hwritten, hbackend, ← trim_eq_nil_iff, trim_trim, ← hbackend] at hb
  exact hne hb

theorem sameBlocks_pair_iff (h : r.overrides.plan {} = .ok q) (hs : r.service = none) :
    RoutingPlan.SameBlocks policy e r.plan q ↔
      trim r.backend = r.backend ∧ trim r.frontend = r.frontend ∧ r.backend ≠ r.frontend := by
  have hunnamed : Unnamed r.service := hs ▸ unnamed_none
  obtain ⟨hbackend, hfrontend, -, hjoined⟩ := pair_of_unnamed h hunnamed
  obtain ⟨hlocal, hb, hf⟩ := pair_plan hs
  rw [hbackend, hfrontend] at hjoined
  by_cases hequal : trim r.backend = trim r.frontend
  · have hq : q.separate = false := by simpa [hequal] using hjoined
    constructor
    · intro hsame
      have hseparate := hsame.separate
      rw [hlocal, hq] at hseparate
      cases hseparate
    · rintro ⟨hb, hf, hne⟩
      rw [hb, hf] at hequal
      exact absurd hequal hne
  · have hq : q.separate = true := by simpa [hequal] using hjoined
    rw [RoutingPlan.sameBlocks_separate_iff hlocal hq (bare_plan h (hlocal.trans hq.symm)), hb, hf,
      hbackend, hfrontend]
    · refine ⟨fun ⟨hb, hf⟩ => ⟨hb, hf, ?_⟩, fun ⟨hb, hf, _⟩ => ⟨hb, hf⟩⟩
      rwa [hb, hf] at hequal
    · rw [hb, hbackend]
      exact trim_isInfix _
    · rw [hf, hfrontend]
      exact trim_isInfix _

/-- A local plan writes the blocks that the service would add exactly for the plain options. -/
theorem sameBlocks_iff (store : StoreTarget) (policy : MatchPolicy) (e : Entity)
    {request : ResolvedRequest} (h : r.overrides.resolve ⟨store, {}⟩ = .ok request) :
    RoutingPlan.SameBlocks policy e r.plan request.plan ↔ r.Plain := by
  have hplan : r.overrides.plan {} = .ok request.plan := (Overrides.resolve_eq_ok_iff.mp h).1
  unfold Plain
  cases hs : r.service with
  | none => exact sameBlocks_pair_iff hplan hs
  | some service =>
      dsimp only
      cases hb : isBlank service with
      | false =>
          rw [sameBlocks_named_iff hplan hs hb]
          refine (and_iff_right ?_).symm
          rintro rfl
          cases hb
      | true =>
          refine iff_of_false (not_sameBlocks_of_blank hplan hs hb) ?_
          rintro ⟨hne, htrim⟩
          exact hne (htrim ▸ (trim_eq_nil_iff service).mpr hb)

/-- Two services, with a port that only a shared one would be given. -/
def servicePair : LocalRouting :=
  { backend := "api".toList, frontend := "web app".toList, port := 3000 }

theorem sameBlocks_iff_sample : ∃ request, servicePair.overrides.resolve ⟨{}, {}⟩ = .ok request ∧
    RoutingPlan.SameBlocks .fullHost Document.shopHost servicePair.plan request.plan := by
  obtain ⟨request, h⟩ : ∃ request, servicePair.overrides.resolve ⟨{}, {}⟩ = .ok request := ⟨_, rfl⟩
  have hplain : servicePair.Plain := ⟨by decide, by decide, by decide⟩
  exact ⟨request, h, (sameBlocks_iff {} .fullHost Document.shopHost h).mpr hplain⟩

/-- One service that is named twice. -/
def oneServiceTwice : LocalRouting := { backend := "app".toList, frontend := "app".toList }

/-- The service joins two equal names, and the local plan keeps them apart. -/
theorem plan_keeps_equal_services_apart : ∃ request,
    oneServiceTwice.overrides.resolve {} = .ok request ∧
      ¬ RoutingPlan.SameBlocks .firstLabel Document.shopHost oneServiceTwice.plan request.plan := by
  refine ⟨_, rfl, fun h => ?_⟩
  have hseparate : true = false := h.separate
  cases hseparate

end Cli.LocalRouting
end HostRouting
