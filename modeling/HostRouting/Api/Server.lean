import HostRouting.Api.Calls
import HostRouting.Json.Printer

/-!
# The server

From a request to a response. An OPTIONS request is answered for every path before
anything else is done, for browsers that ask whether they may call. Every other response
carries the id of its request, fresh unless the client has sent one. Which origin may
read a response is said on all of them.
-/
namespace HostRouting.Api

/-- A response; without a body nothing is sent after the headers. -/
structure Response where
  status : Nat
  headers : Http.Headers
  body : Option Json
  deriving Repr

/-- What a server knows of a request beside the request. -/
structure Surroundings where
  now : Text
  freshId : Text
  deriving DecidableEq, Repr

/-- The origin named in the response to a request. -/
def allowedOrigin? (c : CorsConfig) (r : Http.Request) : Option Text :=
  if c.allowedOrigins.contains ['*'] then some ['*']
  else
    (r.headers.first? "origin".toList).filter fun origin =>
      Http.isFieldValue origin && c.allowedOrigins.contains origin

def fieldOf (name : String) (value : Option Text) : Http.Headers :=
  match value with
  | some value => [(name.toList, value)]
  | none => []

/-- The header fields about origins. -/
def originFields (c : CorsConfig) (r : Http.Request) : Http.Headers :=
  fieldOf "vary" (some
      "origin, access-control-request-method, access-control-request-headers".toList) ++
    fieldOf "access-control-allow-origin" (allowedOrigin? c r)

def preflightFields : Http.Headers :=
  fieldOf "access-control-allow-methods" (some "GET,POST,PUT,DELETE,OPTIONS,HEAD,PATCH".toList) ++
    fieldOf "access-control-allow-headers" (some ['*'])

def allowFields (e : Option Endpoint) : Http.Headers :=
  fieldOf "allow" (e.map (·.method.allowed))

/-- The answer to a browser that asks before it calls. -/
def preflight (c : CorsConfig) (r : Http.Request) : Response :=
  ⟨200, originFields c r ++ preflightFields ++ allowFields (Endpoint.ofTarget? r.target), none⟩

/-- The id of a request. -/
def requestId (around : Surroundings) (r : Http.Request) : Text :=
  (r.headers.first? "x-request-id".toList).getD around.freshId

variable {σ : Type}

/-- The response without the fields that every response has. A path that is no endpoint is
not found, and a method that its endpoint does not admit is refused, both without a body. -/
def route (reader : BodyReader) (m : HostManager σ) (around : Surroundings) (r : Http.Request)
    (s : ServiceState σ) : Response × ServiceState σ :=
  match Endpoint.ofTarget? r.target with
  | none => (⟨404, [], none⟩, s)
  | some e =>
    if e.method.admits r.method then
      let (reply, s) := e.respond reader m around.now r s
      (⟨reply.status, fieldOf "content-type" (some "application/json".toList),
        if r.method = "HEAD".toList then none else some reply.body⟩, s)
    else (⟨405, allowFields (some e), none⟩, s)

def respond (c : CorsConfig) (reader : BodyReader) (m : HostManager σ) (around : Surroundings)
    (r : Http.Request) (s : ServiceState σ) : Response × ServiceState σ :=
  if r.method = "OPTIONS".toList then (preflight c r, s)
  else
    let (response, s) := route reader m around r s
    ({ response with
        headers := response.headers ++ originFields c r ++
          fieldOf "x-request-id" (some (requestId around r)) }, s)

end HostRouting.Api
