import HostRouting.Config.Basic
import HostRouting.Json.Record

/-!
# Reading and writing the configuration as a record

Every section is a record with defaults, and the configuration is a record of sections,
so each may be given by name or by position. What does not fit the type of a member
makes the whole configuration unreadable.
-/
namespace HostRouting

open Json (orDefault optional text? bool? uint16? uint32? uint64? texts?)

def ListenerConfig.read? (surplus : Json.Surplus) (j : Json) : Option ListenerConfig :=
  match Json.fields? surplus ["bind_address".toList] j with
  | some [address] => do
    return { bindAddress := ← orDefault ({} : ListenerConfig).bindAddress text? address }
  | _ => none

def TimeoutConfig.read? (surplus : Json.Surplus) (j : Json) : Option TimeoutConfig :=
  match Json.fields? surplus ["connect_secs".toList, "request_secs".toList] j with
  | some [connect, request] => do
    let d : TimeoutConfig := {}
    return { connectSecs := ← orDefault d.connectSecs uint64? connect
             requestSecs := ← orDefault d.requestSecs uint64? request }
  | _ => none

def StoreTarget.read? (surplus : Json.Surplus) (j : Json) : Option StoreTarget :=
  match Json.fields? surplus ["api_domain".toList, "api_key".toList, "application_id".toList] j with
  | some [domain, key, application] => do
    return { apiDomain := ← orDefault [] text? domain
             apiKey := ← orDefault [] text? key
             applicationId := ← orDefault [] text? application }
  | _ => none

def RoutingConfig.memberNames : List Text :=
  ["backend_service".toList, "frontend_service".toList, "single_service".toList,
    "single_service_port".toList, "skip_middlewares".toList, "cert_resolver".toList,
    "redirect_middleware".toList, "strict_matching".toList]

def RoutingConfig.read? (surplus : Json.Surplus) (j : Json) : Option RoutingConfig :=
  match Json.fields? surplus RoutingConfig.memberNames j with
  | some [backend, frontend, single, port, skip, resolver, redirect, strict] => do
    let d : RoutingConfig := {}
    return { backendService := ← orDefault d.backendService text? backend
             frontendService := ← orDefault d.frontendService text? frontend
             singleService := ← optional text? single
             singleServicePort := ← optional uint16? port
             skipMiddlewares := ← orDefault d.skipMiddlewares bool? skip
             certResolver := ← orDefault d.certResolver text? resolver
             redirectMiddleware := ← orDefault d.redirectMiddleware text? redirect
             strictMatching := ← orDefault d.strictMatching bool? strict }
  | _ => none

def RetryConfig.memberNames : List Text :=
  ["enabled".toList, "max_attempts".toList, "base_delay_ms".toList, "max_delay_ms".toList]

def RetryConfig.read? (surplus : Json.Surplus) (j : Json) : Option RetryConfig :=
  match Json.fields? surplus RetryConfig.memberNames j with
  | some [enabled, attempts, base, max] => do
    let d : RetryConfig := {}
    return { enabled := ← orDefault d.enabled bool? enabled
             maxAttempts := ← orDefault d.maxAttempts uint32? attempts
             baseDelayMs := ← orDefault d.baseDelayMs uint64? base
             maxDelayMs := ← orDefault d.maxDelayMs uint64? max }
  | _ => none

def ObservabilityConfig.read? (surplus : Json.Surplus) (j : Json) : Option ObservabilityConfig :=
  match Json.fields? surplus
      ["log_level".toList, "metrics_enabled".toList, "metrics_address".toList] j with
  | some [level, enabled, address] => do
    let d : ObservabilityConfig := {}
    return { logLevel := ← orDefault d.logLevel text? level
             metricsEnabled := ← orDefault d.metricsEnabled bool? enabled
             metricsAddress := ← orDefault d.metricsAddress text? address }
  | _ => none

def CorsConfig.read? (surplus : Json.Surplus) (j : Json) : Option CorsConfig :=
  match Json.fields? surplus ["allowed_origins".toList] j with
  | some [origins] => do
    return { allowedOrigins := ← orDefault ({} : CorsConfig).allowedOrigins texts? origins }
  | _ => none

def AppConfig.memberNames : List Text :=
  ["listener".toList, "timeouts".toList, "store".toList, "routing".toList, "retries".toList,
    "observability".toList, "cors".toList]

def AppConfig.read? (surplus : Json.Surplus) (j : Json) : Option AppConfig :=
  match Json.fields? surplus AppConfig.memberNames j with
  | some [listener, timeouts, store, routing, retries, observability, cors] => do
    return { listener := ← orDefault {} (ListenerConfig.read? surplus) listener
             timeouts := ← orDefault {} (TimeoutConfig.read? surplus) timeouts
             store := ← orDefault {} (StoreTarget.read? surplus) store
             routing := ← orDefault {} (RoutingConfig.read? surplus) routing
             retries := ← orDefault {} (RetryConfig.read? surplus) retries
             observability := ← orDefault {} (ObservabilityConfig.read? surplus) observability
             cors := ← orDefault {} (CorsConfig.read? surplus) cors }
  | _ => none

def StoreTarget.toJson (s : StoreTarget) : Json :=
  .record [("api_domain", .text s.apiDomain), ("api_key", .text s.apiKey),
    ("application_id", .text s.applicationId)]

def RoutingConfig.toJson (r : RoutingConfig) : Json :=
  .record [("backend_service", .text r.backendService),
    ("frontend_service", .text r.frontendService),
    ("single_service", .ofOption .text r.singleService),
    ("single_service_port", .ofOption (fun p => .ofNat p.toNat) r.singleServicePort),
    ("skip_middlewares", .bool r.skipMiddlewares), ("cert_resolver", .text r.certResolver),
    ("redirect_middleware", .text r.redirectMiddleware),
    ("strict_matching", .bool r.strictMatching)]

def AppConfig.toJson (c : AppConfig) : Json :=
  .record [("listener", .record [("bind_address", .text c.listener.bindAddress)]),
    ("timeouts", .record [("connect_secs", .ofNat c.timeouts.connectSecs.toNat),
      ("request_secs", .ofNat c.timeouts.requestSecs.toNat)]),
    ("store", c.store.toJson), ("routing", c.routing.toJson),
    ("retries", .record [("enabled", .bool c.retries.enabled),
      ("max_attempts", .ofNat c.retries.maxAttempts.toNat),
      ("base_delay_ms", .ofNat c.retries.baseDelayMs.toNat),
      ("max_delay_ms", .ofNat c.retries.maxDelayMs.toNat)]),
    ("observability", .record [("log_level", .text c.observability.logLevel),
      ("metrics_enabled", .bool c.observability.metricsEnabled),
      ("metrics_address", .text c.observability.metricsAddress)]),
    ("cors", .record [("allowed_origins", .array (c.cors.allowedOrigins.map .text))])]

end HostRouting
