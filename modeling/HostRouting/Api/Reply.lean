import HostRouting.Api.Body
import HostRouting.Api.Endpoint
import HostRouting.Hosts.Service

/-!
# Replies

Every reply but that of the health check is an envelope: whether the call succeeded, a
message, and data or null. A failure says its cause in the message and in the status: a
request that cannot be carried out, a document without the section it needs, a store
that does not answer, or a store that is not configured.
-/
namespace HostRouting.Api

/-- The failure of a request. A body was refused with a text. -/
inductive RequestError where
  | body (text : Text)
  | hostnameRequired
  | operation (error : OperationError)
  deriving DecidableEq, Repr

namespace RequestError

def message : RequestError → Text
  | .body text => text
  | .hostnameRequired => "Hostname is required".toList
  | .operation error => error.message

def status : RequestError → Nat
  | .body _ => 400
  | .hostnameRequired => 400
  | .operation .servicesRequired => 400
  | .operation (.edit .emptyHost) => 400
  | .operation (.edit (.missingSection _)) => 422
  | .operation (.store (.target _)) => 500
  | .operation (.store _) => 502

end RequestError

structure Reply where
  status : Nat
  body : Json
  deriving Repr

namespace Reply

def envelope (status : Nat) (success : Bool) (message : Text) (data : Json) : Reply :=
  ⟨status, .record [("success", .bool success), ("message", .text message), ("data", data)]⟩

def ofError (e : RequestError) : Reply :=
  envelope e.status false ("Error: ".toList ++ e.message) .null

def ok (message : Text) (data : Json) : Reply := envelope 200 true message data

def health (now : Text) : Reply :=
  ⟨200, .record [("status", .text "UP".toList), ("timestamp", .text now),
    ("service", .text "Traefik Config Manager".toList), ("version", .text "0.1.0".toList)]⟩

end Reply

def operationData (o : HostOperation) : Json :=
  .record [("message", .text o.message), ("updatedConfig", .text o.updatedConfig),
    ("hostname", .text o.hostname)]

def bindingData (b : ServiceBinding) : Json :=
  .record [("serviceName", .text b.name), ("serviceUrl", .text b.target),
    ("loadBalancer", .text b.policy)]

/-- How the message of an endpoint that takes overrides ends. -/
def Endpoint.customEnding : Endpoint → Text
  | .configCustom => " with custom config".toList
  | .servicesCustom => " with custom config".toList
  | _ => []

/-- The reply to an answered call. -/
def Endpoint.reply (e : Endpoint) : ServiceAnswer → Reply
  | .host operation => .ok operation.message (operationData operation)
  | .config document =>
    .ok ("Configuration retrieved successfully".toList ++ e.customEnding)
      (.record [("config", .text document)])
  | .services bindings =>
    .ok ("Service URLs retrieved successfully".toList ++ e.customEnding)
      (.array (bindings.map bindingData))
  | .defaults d =>
    if e = .updateDefaults then .ok "Configuration updated successfully".toList d.view
    else .ok "Configuration retrieved successfully".toList d.view
  | .reset => .ok "Configuration reset to defaults successfully".toList .null

end HostRouting.Api
