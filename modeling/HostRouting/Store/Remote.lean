import HostRouting.Retry.Policy
import HostRouting.Store.Payload
import HostRouting.Store.Basic

/-!
# The remote store

The two endpoints of the store, asked through a client. A read is repeated under a retry
policy; a write is one exchange. Every status but 200 is a failure that carries the body
of the response. The key travels in one header field and nowhere else.
-/
namespace HostRouting

/-- A store behind a peer: the client that asks, and how reads are repeated. -/
structure RemoteStore (σ : Type) where
  client : Http.Client
  peer : Http.Peer σ
  retry : RetryPolicy

namespace RemoteStore

/-- The fields of every request to the store. -/
def fields (target : StoreTarget) : Http.Headers :=
  [("accept".toList, "application/json".toList), ("x-api-key".toList, target.apiKey)]

def readRequest (target : StoreTarget) (url : Url) : Http.OutgoingRequest :=
  ⟨"GET".toList, url, fields target, none⟩

/-- What is sent to replace the document of an application. -/
def updateBody (target : StoreTarget) (document : Text) : Json :=
  .record [("applicationId", .text target.applicationId), ("traefikConfig", .text document)]

def updateRequest (target : StoreTarget) (url : Url) (document : Text) : Http.OutgoingRequest :=
  ⟨"POST".toList, url, fields target ++ [("content-type".toList, "application/json".toList)],
    some (updateBody target document)⟩

/-- The text of a response with status 200; any other response is a failure. -/
def accepted (operation : StoreOperation) (result : Except Http.ExchangeError Http.Response) :
    Except StoreError Text :=
  match result with
  | .error error => .error (.exchange error)
  | .ok response =>
    match response.text with
    | .error error => .error (.exchange error)
    | .ok body =>
      if response.status = 200 then .ok body else .error (.status operation response.status body)

variable {σ : Type} (remote : RemoteStore σ)

/-- One attempt to read. -/
def readOnce (target : StoreTarget) (s : σ) : Except StoreError Text × σ :=
  match target.readUrl with
  | .error error => (.error (.target error), s)
  | .ok url =>
    let (result, s) := remote.client.send remote.peer (readRequest target url) s
    ((accepted .fetch result).map decodePayload, s)

def read (target : StoreTarget) (s : σ) : Except StoreError Text × σ :=
  remote.retry.run StoreError.isRetryable (remote.readOnce target) s

def write (target : StoreTarget) (document : Text) (s : σ) : Except StoreError Text × σ :=
  match target.updateUrl with
  | .error error => (.error (.target error), s)
  | .ok url =>
    let (result, s) := remote.client.send remote.peer (updateRequest target url document) s
    (accepted .update result, s)

def store : ConfigStore σ := ⟨remote.read, remote.write⟩

end RemoteStore
end HostRouting
