import HostRouting.Hosts.Manager

/-!
# The calls of the service

Everything a client can ask for, as one type of calls and one type of answers. A call
runs on the state of the service, which is the state of its store and the defaults in
force; it reads the defaults once, before anything else happens.
-/
namespace HostRouting

inductive ServiceCall where
  | add (hostname : Text) (overrides : Overrides)
  | delete (hostname : Text) (overrides : Overrides)
  | config (overrides : Overrides)
  | services (overrides : Overrides)
  | showDefaults
  | updateDefaults (update : DefaultsUpdate)
  | resetDefaults
  deriving DecidableEq, Repr

inductive ServiceAnswer where
  | host (operation : HostOperation)
  | config (document : Text)
  | services (bindings : List ServiceBinding)
  | defaults (defaults : Defaults)
  | reset
  deriving DecidableEq, Repr

structure ServiceState (σ : Type) where
  store : σ
  defaults : DefaultsHandle
  deriving DecidableEq, Repr

/-- The outcome of a store operation as the outcome of a call. -/
def ServiceState.after {σ : Type} (s : ServiceState σ) (answer : α → ServiceAnswer)
    (r : Except OperationError α × σ) : Except OperationError ServiceAnswer × ServiceState σ :=
  (r.1.map answer, { s with store := r.2 })

def HostManager.serve {σ : Type} (m : HostManager σ) (call : ServiceCall) (s : ServiceState σ) :
    Except OperationError ServiceAnswer × ServiceState σ :=
  match call with
  | .add hostname o => s.after .host (m.addHost s.defaults.current hostname o s.store)
  | .delete hostname o => s.after .host (m.deleteHost s.defaults.current hostname o s.store)
  | .config o => s.after .config (m.currentConfig s.defaults.current o s.store)
  | .services o => s.after .services (m.serviceBindings s.defaults.current o s.store)
  | .showDefaults => (.ok (.defaults s.defaults.current), s)
  | .updateDefaults u =>
    (.ok (.defaults (s.defaults.update u).current), { s with defaults := s.defaults.update u })
  | .resetDefaults => (.ok .reset, { s with defaults := s.defaults.reset })

end HostRouting
