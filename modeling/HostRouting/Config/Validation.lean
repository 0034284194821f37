import HostRouting.Config.Basic
import HostRouting.Url.Reader

/-!
# Validation of the configuration

All problems of a configuration, in the order of its sections. Store coordinates may be
missing, since a call can bring its own; a routing plan must always be possible.
-/
namespace HostRouting

structure ConfigProblem where
  field : Text
  message : Text
  deriving DecidableEq, Repr

def ConfigProblem.toText (p : ConfigProblem) : Text := p.field ++ ": ".toList ++ p.message

/-- A problem, if the condition holds. -/
def problemIf (condition : Bool) (field message : Text) : List ConfigProblem :=
  if condition then [⟨field, message⟩] else []

def notASocketAddress (address : Text) : Text :=
  ['\x27'] ++ address ++ "' is not a socket address".toList

def ListenerConfig.problems (c : ListenerConfig) : List ConfigProblem :=
  problemIf (!Net.isSocketAddress c.bindAddress) "listener.bind_address".toList
    (notASocketAddress c.bindAddress)

def TimeoutConfig.problems (c : TimeoutConfig) : List ConfigProblem :=
  problemIf (c.connectSecs = 0) "timeouts.connect_secs".toList "must be greater than zero".toList ++
    problemIf (c.requestSecs = 0) "timeouts.request_secs".toList "must be greater than zero".toList

def StoreTarget.problems (c : StoreTarget) : List ConfigProblem :=
  problemIf (!c.apiDomain.isEmpty && !(Url.ofText c.apiDomain).isOk) "store.api_domain".toList
    (['\x27'] ++ c.apiDomain ++ "' is not a valid URL".toList)

def requiredService : Text := "required unless routing.single_service is set".toList

def RoutingConfig.serviceProblems (c : RoutingConfig) : List ConfigProblem :=
  match c.singleService with
  | some service =>
    problemIf (Text.isBlank service) "routing.single_service".toList "must not be blank".toList
  | none =>
    problemIf (Text.isBlank c.backendService) "routing.backend_service".toList requiredService ++
      problemIf (Text.isBlank c.frontendService) "routing.frontend_service".toList requiredService

def RoutingConfig.problems (c : RoutingConfig) : List ConfigProblem :=
  c.serviceProblems ++
    problemIf (c.singleServicePort = some 0) "routing.single_service_port".toList
      "must be greater than zero".toList

def RetryConfig.problems (c : RetryConfig) : List ConfigProblem :=
  problemIf (c.maxAttempts = 0) "retries.max_attempts".toList "must be at least 1".toList ++
    problemIf (c.maxDelayMs < c.baseDelayMs) "retries.base_delay_ms".toList
      "must not exceed retries.max_delay_ms".toList

def ObservabilityConfig.problems (c : ObservabilityConfig) : List ConfigProblem :=
  problemIf (c.metricsEnabled && !Net.isSocketAddress c.metricsAddress)
    "observability.metrics_address".toList (notASocketAddress c.metricsAddress)

def AppConfig.problems (c : AppConfig) : List ConfigProblem :=
  c.listener.problems ++ c.timeouts.problems ++ c.store.problems ++ c.routing.problems ++
    c.retries.problems ++ c.observability.problems

/-- The message for a configuration with problems. -/
def validationMessage (problems : List ConfigProblem) : Text :=
  "Validation failed: ".toList ++ ", ".toList.intercalate (problems.map ConfigProblem.toText)

end HostRouting
