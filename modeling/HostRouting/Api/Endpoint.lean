import HostRouting.Http.Basic

/-!
# Endpoints

The endpoints of the service with their methods and paths. A path is matched as it was
sent, character by character. An endpoint that is read with GET also answers HEAD.
-/
namespace HostRouting.Api

inductive Method where
  | get
  | post
  | put
  | delete
  deriving DecidableEq, Repr

def Method.name : Method → Text
  | .get => "GET".toList
  | .post => "POST".toList
  | .put => "PUT".toList
  | .delete => "DELETE".toList

/-- The methods under which an endpoint of this method answers, joined by commas. -/
def Method.allowed : Method → Text
  | .get => "GET,HEAD".toList
  | m => m.name

def Method.admits (m : Method) (sent : Text) : Bool :=
  sent = m.name || (m = .get && sent = "HEAD".toList)

inductive Endpoint where
  | addHost
  | deleteHost
  | config
  | services
  | addHostCustom
  | deleteHostCustom
  | configCustom
  | servicesCustom
  | currentDefaults
  | updateDefaults
  | resetDefaults
  | health
  deriving DecidableEq, Repr

namespace Endpoint

def all : List Endpoint :=
  [addHost, deleteHost, config, services, addHostCustom, deleteHostCustom, configCustom,
    servicesCustom, currentDefaults, updateDefaults, resetDefaults, health]

theorem mem_all (e : Endpoint) : e ∈ all := by cases e <;> decide

def method : Endpoint → Method
  | addHost => .post
  | deleteHost => .delete
  | config => .get
  | services => .get
  | addHostCustom => .post
  | deleteHostCustom => .delete
  | configCustom => .post
  | servicesCustom => .post
  | currentDefaults => .get
  | updateDefaults => .put
  | resetDefaults => .post
  | health => .get

def path : Endpoint → Text
  | addHost => "/api/traefik/add-host".toList
  | deleteHost => "/api/traefik/delete-host".toList
  | config => "/api/traefik/config".toList
  | services => "/api/traefik/services".toList
  | addHostCustom => "/api/traefik/add-host-custom".toList
  | deleteHostCustom => "/api/traefik/delete-host-custom".toList
  | configCustom => "/api/traefik/config-custom".toList
  | servicesCustom => "/api/traefik/services-custom".toList
  | currentDefaults => "/api/config/current".toList
  | updateDefaults => "/api/config/update".toList
  | resetDefaults => "/api/config/reset".toList
  | health => "/api/health".toList

def ofPath? (path : Text) : Option Endpoint := all.find? (·.path = path)

theorem ofPath?_path (e : Endpoint) : ofPath? e.path = some e := by cases e <;> decide

/-- The endpoint that a request target names. -/
def ofTarget? (target : Text) : Option Endpoint := (Http.pathOf? target).bind ofPath?

end Endpoint
end HostRouting.Api
