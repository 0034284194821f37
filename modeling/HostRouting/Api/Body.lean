import HostRouting.Hosts.Reading
import HostRouting.Http.MediaType
import HostRouting.Json.Bounded
import HostRouting.Json.Reader
import HostRouting.Text.Utf8

/-!
# Request bodies

How the bodies of requests are read is a value: a reader for each kind of body, which gives
what the body holds or refuses it with a text of its own. The reader of the server takes
JSON. It looks at a body only when the headers declare JSON and the body is not too long.
A request for a host is a record with one optional member. A request with overrides is an
object that holds the host and the overrides side by side; everything beside the host is
kept until the overrides are read from it, so all of it must be held. Updates of the
defaults are records.
-/
namespace HostRouting.Api

open Json (optional text?)

/-- A request for a host and what the call overrides. -/
structure HostRequest where
  hostname : Option Text := none
  overrides : Overrides := {}
  deriving DecidableEq, Repr

/-- The kinds of bodies: a host, a host with overrides, an update of the defaults. -/
inductive BodyKind where
  | plain
  | custom
  | update
  deriving DecidableEq, Repr

/-- A reader of bodies. A body that is refused is refused with a text. -/
structure BodyReader where
  plain : Http.Request → Except Text HostRequest
  custom : Http.Request → Except Text HostRequest
  update : Http.Request → Except Text DefaultsUpdate

namespace HostRequest

def hostnameMember : Text := "hostname".toList

/-- A request without overrides. -/
def readPlain? (j : Json) : Option HostRequest :=
  match Json.fields? .refused [hostnameMember] j with
  | some [hostname] => (optional text? hostname).map fun hostname => { hostname }
  | _ => none

/-- Whether the members of an object beside the host have names and values to be held. -/
def othersHeld (held : Json → Bool) (members : List (JsonString × Json)) : Bool :=
  members.all fun m => m.1 = some hostnameMember || (m.1.isSome && held m.2)

/-- A request with overrides. -/
def readCustom? (held : Json → Bool) (j : Json) : Option HostRequest :=
  match j with
  | .object members =>
    if othersHeld held members then
      match Json.membersByName (hostnameMember :: Overrides.memberNames) members with
      | some (hostname :: overrides) => do
        return ⟨← optional text? hostname, ← Overrides.ofFields? overrides⟩
      | _ => none
    else none
  | _ => none

end HostRequest

/-- The headers declare the body to be JSON. -/
def declaresJson (r : Http.Request) : Bool :=
  (r.headers.mediaType?.map Http.MediaType.isJson).getD false

/-- The length of the longest body in bytes. -/
def bodyLimit : Nat := 2097152

/-- The text with which a body is refused before it is looked at. -/
def refusal? (r : Http.Request) : Option Text :=
  if !declaresJson r then some "Expected request with `Content-Type: application/json`".toList
  else if bodyLimit < (Text.utf8Bytes r.body).length then
    some "Failed to buffer the request body: length limit exceeded".toList
  else none

/-- The value that the body of a request holds. What is wrong with a body that holds none is
worded by a function of the body. -/
def readBody (describe : Text → Text) (read : Json → Option α) (r : Http.Request) :
    Except Text α :=
  match refusal? r with
  | some text => .error text
  | none =>
    match (Json.ofText? r.body).bind read with
    | some value => .ok value
    | none => .error (describe r.body)

/-- The levels of nesting left for the members of a body. -/
def memberLevels : Nat := 126

/-- The reader of JSON bodies, under a wording of what is wrong with them. -/
def BodyReader.json (describe : BodyKind → Text → Text) : BodyReader where
  plain := readBody (describe .plain) HostRequest.readPlain?
  custom := readBody (describe .custom) (HostRequest.readCustom? (Json.isHoldable memberLevels))
  update := readBody (describe .update) DefaultsUpdate.read?

end HostRouting.Api
