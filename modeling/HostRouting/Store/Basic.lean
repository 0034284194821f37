import HostRouting.Config.Basic
import HostRouting.Http.Exchange
import HostRouting.Url.Reader

/-!
# Stores of routing documents

A store keeps one document for each application. It is addressed call by call through a
`StoreTarget`, and it is a pair of functions on a state, so that a call may fail and
still have changed the state. A failure is a cause, and its message says what an
operator reads.
-/
namespace HostRouting

inductive StoreOperation where
  | fetch
  | update
  deriving DecidableEq, Repr

def StoreOperation.name : StoreOperation → Text
  | .fetch => "fetch".toList
  | .update => "update".toList

/-- Why a target names no endpoint. -/
inductive TargetError where
  | emptyApplicationId
  | emptyDomain
  | badUrl (domain : Text) (error : UrlError)
  deriving DecidableEq, Repr

inductive StoreError where
  | exchange (error : Http.ExchangeError)
  | status (operation : StoreOperation) (code : Nat) (body : Text)
  | target (error : TargetError)
  deriving DecidableEq, Repr

def TargetError.message : TargetError → Text
  | .emptyApplicationId => "application id is empty".toList
  | .emptyDomain => "API domain is empty".toList
  | .badUrl domain error =>
    ['\x27'] ++ domain ++ "' is not a valid URL: ".toList ++ error.message

/-- The message of an exchange error is for the client that broke, and is not fixed here. -/
def StoreError.message : StoreError → Text
  | .exchange _ => "Request failed".toList
  | .status operation code body =>
    "Failed to ".toList ++ operation.name ++ " config. HTTP status: ".toList ++ Text.ofNat code ++
      "\nResponse: ".toList ++ body
  | .target error => "Invalid store target: ".toList ++ error.message

/-- Whether the same call may succeed when it is made again. -/
def StoreError.isRetryable : StoreError → Bool
  | .exchange .transport => true
  | .exchange .redirect => true
  | .exchange _ => false
  | .status _ code _ => 500 ≤ code
  | .target _ => false

/-- A store over states `σ`. Writing answers with the acknowledgement of the store. -/
structure ConfigStore (σ : Type) where
  read : StoreTarget → σ → Except StoreError Text × σ
  write : StoreTarget → Text → σ → Except StoreError Text × σ

namespace StoreTarget

def readPath : Text := "/api/application.readTraefikConfig".toList
def updatePath : Text := "/api/application.updateTraefikConfig".toList

/-- The domain without white space around it and without slashes at its end. -/
def baseUrl (s : StoreTarget) : Text := dropEndWhile (· = '/') (Text.trim s.apiDomain)

def endpoint (s : StoreTarget) (path : Text) : Except TargetError Url :=
  if Text.isBlank s.applicationId then .error .emptyApplicationId
  else if s.baseUrl.isEmpty then .error .emptyDomain
  else
    match Url.ofText (s.baseUrl ++ path) with
    | .ok url => .ok url
    | .error error => .error (.badUrl s.baseUrl error)

/-- The endpoint to read from, with the application in its query. -/
def readUrl (s : StoreTarget) : Except TargetError Url :=
  (s.endpoint readPath).map fun url => url.addPair "applicationId".toList s.applicationId

def updateUrl (s : StoreTarget) : Except TargetError Url := s.endpoint updatePath

end StoreTarget
end HostRouting
