import HostRouting.Hosts.Overrides
import HostRouting.Json.Record

/-!
# Overrides, updates and defaults as records

Overrides and updates are read as records whose members are all optional, and a record
with a member it does not know is read without it. An update is written with every
member, absent ones as null; the defaults are shown with the key masked.
-/
namespace HostRouting

open Json (optional text? bool? uint16?)

def Overrides.memberNames : List Text :=
  ["dokployApiKey".toList, "apiDomain".toList, "applicationId".toList, "backendService".toList,
    "frontendService".toList, "serviceName".toList, "servicePort".toList,
    "skipMiddlewares".toList]

def Overrides.ofFields? : List (Option Json) → Option Overrides
  | [key, domain, application, backend, frontend, service, port, skip] => do
    return { apiKey := ← optional text? key
             apiDomain := ← optional text? domain
             applicationId := ← optional text? application
             backendService := ← optional text? backend
             frontendService := ← optional text? frontend
             serviceName := ← optional text? service
             servicePort := ← optional uint16? port
             skipMiddlewares := ← optional bool? skip }
  | _ => none

def Overrides.read? (j : Json) : Option Overrides :=
  (Json.fields? .refused Overrides.memberNames j).bind Overrides.ofFields?

def DefaultsUpdate.memberNames : List Text :=
  ["dokployApiKey".toList, "apiDomain".toList, "applicationId".toList, "backendService".toList,
    "frontendService".toList, "singleService".toList, "singleServicePort".toList,
    "skipMiddlewares".toList]

def DefaultsUpdate.read? (j : Json) : Option DefaultsUpdate :=
  match Json.fields? .refused DefaultsUpdate.memberNames j with
  | some [key, domain, application, backend, frontend, service, port, skip] => do
    return { apiKey := ← optional text? key
             apiDomain := ← optional text? domain
             applicationId := ← optional text? application
             backendService := ← optional text? backend
             frontendService := ← optional text? frontend
             singleService := ← optional text? service
             singleServicePort := ← optional uint16? port
             skipMiddlewares := ← optional bool? skip }
  | _ => none

def portJson (p : UInt16) : Json := .ofNat p.toNat

def DefaultsUpdate.toJson (u : DefaultsUpdate) : Json :=
  .record [("dokployApiKey", .ofOption .text u.apiKey),
    ("apiDomain", .ofOption .text u.apiDomain),
    ("applicationId", .ofOption .text u.applicationId),
    ("backendService", .ofOption .text u.backendService),
    ("frontendService", .ofOption .text u.frontendService),
    ("singleService", .ofOption .text u.singleService),
    ("singleServicePort", .ofOption portJson u.singleServicePort),
    ("skipMiddlewares", .ofOption .bool u.skipMiddlewares)]

/-- The defaults as they are shown to a caller, the key masked. -/
def Defaults.view (d : Defaults) : Json :=
  .record [("dokployApiKey", .text (maskSecret d.store.apiKey)),
    ("apiDomain", .text d.store.apiDomain),
    ("applicationId", .text d.store.applicationId),
    ("backendService", .text d.routing.backendService),
    ("frontendService", .text d.routing.frontendService),
    ("singleService", .ofOption .text d.routing.singleService),
    ("singleServicePort", .ofOption portJson d.routing.singleServicePort),
    ("skipMiddlewares", .bool d.routing.skipMiddlewares)]

end HostRouting
