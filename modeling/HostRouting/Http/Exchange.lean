import HostRouting.Http.MediaType
import HostRouting.Json.Basic
import HostRouting.Text.Charset
import HostRouting.Url.Basic

/-!
# Exchanges with a peer

A client sends a request and receives a response, or learns how the exchange broke. The
peer is a function on a state, which may be anything from a script to the log of a
conversation. What a client decides by itself is a value as well: which requests it can
send, where a response redirects it to, and how many redirects it follows. A redirect is
followed with a request of its own, so one exchange may be several requests to the peer,
and what cannot be sent is refused before the peer hears of it. A request that a
connection gives back unread and that goes out on another one is one request.
-/
namespace HostRouting.Http

/-- How an exchange broke: a request cannot be sent, no response arrived, there were more
redirects than the client follows, or the body of the response ended early. -/
inductive ExchangeError where
  | request
  | transport
  | redirect
  | body
  deriving DecidableEq, Repr

/-- A request as a client sends it. -/
structure OutgoingRequest where
  method : Text
  url : Url
  headers : Headers
  body : Option Json
  deriving Repr

namespace OutgoingRequest

/-- The host field: the host with its port. -/
def host (r : OutgoingRequest) : Text :=
  match r.url.authority with
  | some a => a.hostPort
  | none => []

/-- The target as it is sent: the path and the query. -/
def target (r : OutgoingRequest) : Text := r.url.path ++ r.url.queryPart

end OutgoingRequest

/-- A status that a final response can have. -/
def isFinalStatus (status : Nat) : Bool := status = 101 || (200 ≤ status && status < 1000)

/-- Statuses whose responses have no body. -/
def isBodiless (status : Nat) : Bool := status = 101 || status = 204 || status = 304

/-- Statuses that send a client to another place. -/
def isRedirectStatus (status : Nat) : Bool := [301, 302, 303, 307, 308].contains status

/-- The text of a body: in the declared encoding, or else in UTF-8. -/
def bodyText (contentType : Option Text) (body : List UInt8) : Text :=
  let charset := do
    let type ← contentType.bind MediaType.ofText?
    let label ← type.parameter? "charset".toList
    Text.Charset.ofLabel? label
  (charset.getD .utf8).decodeMarked body

/-- A response as it arrived, perhaps without the end of its body. -/
structure Response where
  status : Nat
  contentType : Option Text := none
  location : Option Text := none
  body : List UInt8 := []
  complete : Bool := true
  deriving DecidableEq, Repr

namespace Response

/-- The bytes of the body. -/
def bytes (r : Response) : Except ExchangeError (List UInt8) :=
  if isBodiless r.status then .ok [] else if r.complete then .ok r.body else .error .body

/-- The text of the body. -/
def text (r : Response) : Except ExchangeError Text := r.bytes.map (bodyText r.contentType)

/-- A redirect says where to go. -/
def isRedirect (r : Response) : Bool := isRedirectStatus r.status && r.location.isSome

/-- A redirect under which the same request is made once more, with its method and body. -/
def repeats (r : Response) : Bool := r.isRedirect && (r.status = 307 || r.status = 308)

end Response

/-- What a peer does with a request. -/
inductive PeerReply where
  | dropped
  | answered (response : Response)
  deriving DecidableEq, Repr

abbrev Peer (σ : Type) := OutgoingRequest → σ → PeerReply × σ

namespace PeerReply

/-- What a client makes of a reply. -/
def response : PeerReply → Except ExchangeError Response
  | .dropped => .error .transport
  | .answered r => if isFinalStatus r.status then .ok r else .error .transport

def isRedirect : PeerReply → Bool
  | .dropped => false
  | .answered r => r.isRedirect

def repeats : PeerReply → Bool
  | .dropped => false
  | .answered r => r.repeats

end PeerReply

/-- What a client decides by itself: whether it can send a request, with which request it
goes on from a response, and how often it goes on in one exchange. -/
structure Client where
  canSend : OutgoingRequest → Bool
  redirect? : OutgoingRequest → Response → Option OutgoingRequest
  redirectLimit : Nat

namespace Client

/-- What clients that follow redirects document. They go on from redirects only. Where the
request is to be repeated, its method and body stay; from all other redirects a client that
has got or posted something goes on to get. -/
structure FollowsRedirects (client : Client) : Prop where
  isRedirect : ∀ {r response next}, client.redirect? r response = some next →
    response.isRedirect = true
  method : ∀ {r response next}, client.redirect? r response = some next →
    r.method = "GET".toList ∨ r.method = "POST".toList →
    response.repeats = true ∧ next.method = r.method ∧ next.body = r.body ∨
      next.method = "GET".toList

variable {σ : Type}

/-- An exchange in which the client follows up to so many redirects more. -/
def exchange (client : Client) (peer : Peer σ) (hops : Nat) (r : OutgoingRequest) (s : σ) :
    Except ExchangeError Response × σ :=
  if client.canSend r then
    let (reply, s) := peer r s
    match reply.response with
    | .error error => (.error error, s)
    | .ok response =>
      match client.redirect? r response, hops with
      | none, _ => (.ok response, s)
      | some _, 0 => (.error .redirect, s)
      | some next, hops + 1 => client.exchange peer hops next s
  else (.error .request, s)

/-- One exchange. -/
def send (client : Client) (peer : Peer σ) (r : OutgoingRequest) (s : σ) :
    Except ExchangeError Response × σ :=
  client.exchange peer client.redirectLimit r s

end Client
end HostRouting.Http
