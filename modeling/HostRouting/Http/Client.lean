import HostRouting.Http.Exchange
import HostRouting.Url.Join

/-!
# The standard client

The client that the program runs with. It sends to web addresses of a bounded length,
with values that header fields can hold, and follows ten redirects. Going on, it says
where it comes from, unless it goes from a secure address to a plain one.
-/
namespace HostRouting.Http

def isWebScheme (scheme : Text) : Bool := scheme = "http".toList || scheme = "https".toList

/-- Whether a host has only characters that a request may carry. -/
def isSendableHost (host : Text) : Bool :=
  host.all fun c => c.isAlphanum || "!$&'()*+,-.:;=[]_~".toList.contains c

/-- The length of the longest address. -/
def addressLimit : Nat := 65534

/-- A URL without user information, which a request has in a field of its own. -/
def anonymous (u : Url) : Url := { u with authority := u.authority.map ({ · with userinfo := [] }) }

/-- Whether a request can be addressed to a URL. -/
def isAddress (u : Url) : Bool :=
  (anonymous u).toText.length ≤ addressLimit &&
    match u.authority with
    | some a => isSendableHost a.host.toText
    | none => false

namespace OutgoingRequest

def isSendable (r : OutgoingRequest) : Bool :=
  isWebScheme r.url.scheme && r.headers.all (isFieldValue ·.2) && isAddress r.url

/-- The fields of a request without those of a name, which is given in lower case. -/
def fieldsBut (r : OutgoingRequest) (name : Text) : Headers :=
  r.headers.filter fun field => lowerCase field.1 ≠ name

/-- The request that only gets what is there. -/
def toGet (r : OutgoingRequest) : OutgoingRequest :=
  { r with method := "GET".toList, headers := r.fieldsBut "content-type".toList, body := none }

/-- The request that goes on from a redirect status; a URL is still to be put in. -/
def goingOn (r : OutgoingRequest) (status : Nat) : OutgoingRequest :=
  if status = 303 || ((status = 301 || status = 302) && r.method = "POST".toList) then r.toGet
  else r

/-- The request at another URL, with the one it comes from in a field. -/
def movedTo (r : OutgoingRequest) (u : Url) : OutgoingRequest :=
  let referer := { anonymous r.url with fragment := none }.toText
  if r.url.scheme = "https".toList && u.scheme = "http".toList then { r with url := u }
  else
    { r with url := u, headers := r.fieldsBut "referer".toList ++ [("referer".toList, referer)] }

/-- Where a response redirects a request to, if that is an address. -/
def redirect? (r : OutgoingRequest) (response : Response) : Option OutgoingRequest :=
  if response.isRedirect then
    let url := (response.location.bind (anonymous r.url).join?).filter isAddress
    url.map (r.goingOn response.status).movedTo
  else none

@[simp] theorem method_movedTo (r : OutgoingRequest) (u : Url) :
    (r.movedTo u).method = r.method := by
  unfold movedTo
  split <;> rfl

@[simp] theorem body_movedTo (r : OutgoingRequest) (u : Url) : (r.movedTo u).body = r.body := by
  unfold movedTo
  split <;> rfl

end OutgoingRequest

def Client.standard : Client := ⟨OutgoingRequest.isSendable, OutgoingRequest.redirect?, 10⟩

end HostRouting.Http
