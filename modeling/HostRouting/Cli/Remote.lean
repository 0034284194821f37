import HostRouting.Api.Endpoint
import HostRouting.Cli.Command
import HostRouting.Http.Exchange
import HostRouting.Json.Basic
import HostRouting.Url.Reader

/-!
# Asking a running service

Which request a command sends. What the call overrides goes into the body, and with any
override the endpoint is the one that takes them.
-/
namespace HostRouting.Cli

/-- The overrides that were given, blank ones too, as members of a body. -/
def givenMembers (o : Overrides) : List (String × Json) :=
  let text (name : String) (value : Option Text) : List (String × Json) :=
    (value.map fun t => (name, Json.text t)).toList
  text "applicationId" o.applicationId ++ text "dokployApiKey" o.apiKey ++
    text "apiDomain" o.apiDomain ++ text "backendService" o.backendService ++
    text "frontendService" o.frontendService ++ text "serviceName" o.serviceName ++
    (o.servicePort.map fun p => ("servicePort", Json.ofNat p.toNat)).toList ++
    (o.skipMiddlewares.map fun b => ("skipMiddlewares", Json.bool b)).toList

/-- An endpoint and the body for it. -/
structure RemoteCall where
  endpoint : Api.Endpoint
  body : Option Json
  deriving Repr

/-- The call on a host, at the plain endpoint unless something is overridden. -/
def hostCall (plain custom : Api.Endpoint) (hostname : Text) (o : Overrides) : RemoteCall :=
  ⟨if (givenMembers o).isEmpty then plain else custom,
    some (.record (givenMembers o ++ [("hostname", .text hostname)]))⟩

/-- The call that only reads. -/
def readCall (plain custom : Api.Endpoint) (o : Overrides) : RemoteCall :=
  if (givenMembers o).isEmpty then ⟨plain, none⟩ else ⟨custom, some (.record (givenMembers o))⟩

/-- The call of a command; none when the command works without a service. -/
def Command.remoteCall? : Command → Option RemoteCall
  | .addHost hostname o => some (hostCall .addHost .addHostCustom hostname o)
  | .deleteHost hostname o => some (hostCall .deleteHost .deleteHostCustom hostname o)
  | .config o => some (readCall .config .configCustom o)
  | .services o => some (readCall .services .servicesCustom o)
  | .health => some ⟨.health, none⟩
  | _ => none

/-- The fields of a request with or without a body. -/
def RemoteCall.fields (c : RemoteCall) : Http.Headers :=
  (match c.body with
    | some _ => [("content-type".toList, "application/json".toList)]
    | none => []) ++ [("accept".toList, "*/*".toList)]

/-- The request of a call to the service at a base URL. -/
def RemoteCall.request (c : RemoteCall) (base : Text) : Except UrlError Http.OutgoingRequest :=
  (Url.ofText (base ++ c.endpoint.path)).map fun url =>
    ⟨c.endpoint.method.name, url, c.fields, c.body⟩

end HostRouting.Cli
