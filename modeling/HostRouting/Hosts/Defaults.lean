import HostRouting.Config.Basic
import HostRouting.Text.Utf8

/-!
# Runtime defaults

What a call falls back on: the store coordinates and the routing settings. They start
with the configuration, change by partial updates, and can be set back. A snapshot is a
plain value, so a call that has taken one never sees a later update. A secret is shown
by its first four characters at most.
-/
namespace HostRouting

structure Defaults where
  store : StoreTarget := {}
  routing : RoutingConfig := {}
  deriving DecidableEq, Repr

def Defaults.ofConfig (c : AppConfig) : Defaults := ⟨c.store, c.routing⟩

/-- New values for some of the defaults. A blank single service means none. -/
structure DefaultsUpdate where
  apiKey : Option Text := none
  apiDomain : Option Text := none
  applicationId : Option Text := none
  backendService : Option Text := none
  frontendService : Option Text := none
  singleService : Option Text := none
  singleServicePort : Option UInt16 := none
  skipMiddlewares : Option Bool := none
  deriving DecidableEq, Repr

def DefaultsUpdate.apply (u : DefaultsUpdate) (d : Defaults) : Defaults where
  store :=
    { apiDomain := u.apiDomain.getD d.store.apiDomain
      apiKey := u.apiKey.getD d.store.apiKey
      applicationId := u.applicationId.getD d.store.applicationId }
  routing :=
    { d.routing with
      backendService := u.backendService.getD d.routing.backendService
      frontendService := u.frontendService.getD d.routing.frontendService
      singleService :=
        match u.singleService with
        | some service => if Text.isBlank service then none else some service
        | none => d.routing.singleService
      singleServicePort := u.singleServicePort.or d.routing.singleServicePort
      skipMiddlewares := u.skipMiddlewares.getD d.routing.skipMiddlewares }

/-- The defaults in force, and those of the start. -/
structure DefaultsHandle where
  initial : Defaults
  current : Defaults
  deriving DecidableEq, Repr

namespace DefaultsHandle

def start (d : Defaults) : DefaultsHandle := ⟨d, d⟩

def update (u : DefaultsUpdate) (h : DefaultsHandle) : DefaultsHandle :=
  { h with current := u.apply h.current }

def reset (h : DefaultsHandle) : DefaultsHandle := { h with current := h.initial }

end DefaultsHandle

/-- The first four characters of a secret, but none of a secret that has no more bytes than
these. -/
def maskSecret (secret : Text) : Text :=
  if secret.isEmpty then []
  else
    let shown := secret.take 4
    if (Text.utf8Bytes shown).length = (Text.utf8Bytes secret).length then "****".toList
    else shown ++ "...".toList

end HostRouting
