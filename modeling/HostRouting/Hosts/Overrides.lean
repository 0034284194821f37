import HostRouting.Hosts.Defaults
import HostRouting.Store.Basic

/-!
# Overrides of a single call

A call may bring its own store coordinates and services; a blank text counts as absent,
and every other is trimmed. The plan of a host has one shared service when the call
names one, when the defaults name one, or when backend and frontend turn out equal;
otherwise it has the two apart, and both must be known.
-/
namespace HostRouting

/-- The failure of an operation on hosts. -/
inductive OperationError where
  | servicesRequired
  | edit (error : EditError)
  | store (error : StoreError)
  deriving DecidableEq, Repr

def OperationError.message : OperationError → Text
  | .servicesRequired => "Backend and frontend services are required".toList
  | .edit error => error.message
  | .store error => error.message

structure Overrides where
  apiKey : Option Text := none
  apiDomain : Option Text := none
  applicationId : Option Text := none
  backendService : Option Text := none
  frontendService : Option Text := none
  serviceName : Option Text := none
  servicePort : Option UInt16 := none
  skipMiddlewares : Option Bool := none
  deriving DecidableEq, Repr

/-- The trimmed text, unless nothing is left of it. -/
def nonBlank? (t : Text) : Option Text :=
  if (Text.trim t).isEmpty then none else some (Text.trim t)

/-- The given text unless it is absent or blank, else the default as it stands. -/
def pick (given : Option Text) (default : Text) : Text := (given.bind nonBlank?).getD default

/-- All that a host operation needs, with no fallback left. -/
structure ResolvedRequest where
  target : StoreTarget
  plan : RoutingPlan
  deriving DecidableEq, Repr

namespace Overrides

/-- Whether the overrides change nothing. -/
def isEmpty (o : Overrides) : Bool :=
  [o.apiKey, o.apiDomain, o.applicationId, o.backendService, o.frontendService, o.serviceName].all
      (fun given => (given.bind nonBlank?).isNone) &&
    o.servicePort.isNone && o.skipMiddlewares.isNone

def resolveTarget (o : Overrides) (d : Defaults) : StoreTarget :=
  ⟨pick o.apiDomain d.store.apiDomain, pick o.apiKey d.store.apiKey,
    pick o.applicationId d.store.applicationId⟩

/-- The shared service that the call or else the defaults ask for, with its port. -/
def sharedService? (o : Overrides) (r : RoutingConfig) : Option (Text × UInt16) :=
  ((o.serviceName.bind nonBlank?).map fun name => (name, o.servicePort.getD defaultPort)).or
    ((r.singleService.bind nonBlank?).map fun name => (name, o.servicePort.getD r.singlePort))

/-- A plan for the given services, with all else from the call and the defaults. -/
def planFor (o : Overrides) (r : RoutingConfig) (backend frontend : Text) (separate : Bool)
    (port : UInt16) : RoutingPlan where
  backend := backend
  frontend := frontend
  separate := separate
  skipMiddlewares := o.skipMiddlewares.getD false || r.skipMiddlewares
  port := port
  certResolver := r.certResolver
  redirectMiddleware := r.redirectMiddleware

def plan (o : Overrides) (r : RoutingConfig) : Except OperationError RoutingPlan :=
  match o.sharedService? r with
  | some (service, port) => .ok (o.planFor r service service false port)
  | none =>
    let backend := pick o.backendService r.backendService
    let frontend := pick o.frontendService r.frontendService
    if backend.isEmpty || frontend.isEmpty then .error .servicesRequired
    else .ok (o.planFor r backend frontend (backend ≠ frontend) defaultPort)

def resolve (o : Overrides) (d : Defaults) : Except OperationError ResolvedRequest :=
  (o.plan d.routing).map fun plan => ⟨o.resolveTarget d, plan⟩

end Overrides
end HostRouting
