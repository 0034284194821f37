import HostRouting.Api.Reply

/-!
# Requests as calls

What a request to an endpoint asks of the service. The body is read before anything in
it is looked at, and a host is required only where the endpoint changes one. The health
check asks nothing.
-/
namespace HostRouting.Api

/-- The trimmed host of a request that must have one. -/
def HostRequest.required (r : HostRequest) : Except RequestError Text :=
  match r.hostname.bind nonBlank? with
  | some hostname => .ok hostname
  | none => .error .hostnameRequired

def readRequest (read : Http.Request → Except Text α) (r : Http.Request) :
    Except RequestError α :=
  match read r with
  | .ok value => .ok value
  | .error text => .error (.body text)

/-- The call on the host of a request, made with the overrides of the request. -/
def hostCall (read : Http.Request → Except Text HostRequest)
    (call : Text → Overrides → ServiceCall) (r : Http.Request) : Except RequestError ServiceCall :=
  match readRequest read r with
  | .error error => .error error
  | .ok request => request.required.map fun hostname => call hostname request.overrides

/-- The call that needs no host. -/
def overriddenCall (read : Http.Request → Except Text HostRequest) (call : Overrides → ServiceCall)
    (r : Http.Request) : Except RequestError ServiceCall :=
  (readRequest read r).map fun request => call request.overrides

/-- The call of a request to an endpoint; none for the health check. -/
def Endpoint.call? (e : Endpoint) (reader : BodyReader) (r : Http.Request) :
    Option (Except RequestError ServiceCall) :=
  match e with
  | .addHost => some (hostCall reader.plain .add r)
  | .deleteHost => some (hostCall reader.plain .delete r)
  | .config => some (.ok (.config {}))
  | .services => some (.ok (.services {}))
  | .addHostCustom => some (hostCall reader.custom .add r)
  | .deleteHostCustom => some (hostCall reader.custom .delete r)
  | .configCustom => some (overriddenCall reader.custom .config r)
  | .servicesCustom => some (overriddenCall reader.custom .services r)
  | .currentDefaults => some (.ok .showDefaults)
  | .updateDefaults => some ((readRequest reader.update r).map .updateDefaults)
  | .resetDefaults => some (.ok .resetDefaults)
  | .health => none

variable {σ : Type}

/-- The reply of an endpoint to a request, and the state of the service after it. -/
def Endpoint.respond (e : Endpoint) (reader : BodyReader) (m : HostManager σ) (now : Text)
    (r : Http.Request) (s : ServiceState σ) : Reply × ServiceState σ :=
  match e.call? reader r with
  | none => (.health now, s)
  | some (.error error) => (.ofError error, s)
  | some (.ok call) =>
    match m.serve call s with
    | (.ok answer, s) => (e.reply answer, s)
    | (.error error, s) => (.ofError (.operation error), s)

end HostRouting.Api
