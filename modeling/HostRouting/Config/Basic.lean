import HostRouting.Document.Block

/-!
# The configuration

Settings by section, each with its default. Ports, counts and delays are machine words
of the width that the file format allows them. The store section is also what a single
call addresses, so both have one type, `StoreTarget`.
-/
namespace HostRouting

structure ListenerConfig where
  bindAddress : Text := "0.0.0.0:8080".toList
  deriving DecidableEq, Repr

structure TimeoutConfig where
  connectSecs : UInt64 := 30
  requestSecs : UInt64 := 60
  deriving DecidableEq, Repr

/-- Which application's document to read or write, and how to authenticate. -/
structure StoreTarget where
  apiDomain : Text := []
  apiKey : Text := []
  applicationId : Text := []
  deriving DecidableEq, Repr

/-- How generated routers are wired when a call does not say. -/
structure RoutingConfig where
  backendService : Text := []
  frontendService : Text := []
  singleService : Option Text := none
  singleServicePort : Option UInt16 := none
  skipMiddlewares : Bool := false
  certResolver : Text := defaultCertResolver
  redirectMiddleware : Text := defaultRedirectMiddleware
  strictMatching : Bool := false
  deriving DecidableEq, Repr

def RoutingConfig.singlePort (r : RoutingConfig) : UInt16 := r.singleServicePort.getD defaultPort

def RoutingConfig.policy (r : RoutingConfig) : MatchPolicy := .ofStrict r.strictMatching

structure RetryConfig where
  enabled : Bool := true
  maxAttempts : UInt32 := 3
  baseDelayMs : UInt64 := 100
  maxDelayMs : UInt64 := 2000
  deriving DecidableEq, Repr

structure ObservabilityConfig where
  logLevel : Text := "info".toList
  metricsEnabled : Bool := false
  metricsAddress : Text := "0.0.0.0:9090".toList
  deriving DecidableEq, Repr

/-- The origins that may call the service from a browser; `*` allows any. -/
structure CorsConfig where
  allowedOrigins : List Text := [['*']]
  deriving DecidableEq, Repr

structure AppConfig where
  listener : ListenerConfig := {}
  timeouts : TimeoutConfig := {}
  store : StoreTarget := {}
  routing : RoutingConfig := {}
  retries : RetryConfig := {}
  observability : ObservabilityConfig := {}
  cors : CorsConfig := {}
  deriving DecidableEq, Repr

/-- The level each part of the service logs at. -/
def ObservabilityConfig.logFilter (o : ObservabilityConfig) : Text :=
  "traefik_config_manager=".toList ++ o.logLevel ++ ",tower_http=".toList ++ o.logLevel

end HostRouting
