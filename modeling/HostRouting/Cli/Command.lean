import HostRouting.Cli.Arguments
import HostRouting.Hosts.Overrides

/-!
# Commands

The commands of the command line: five that ask a running service, and four that work on
a document at hand without one. Each is declared by its options and positional
arguments, and its arguments are read by that declaration.
-/
namespace HostRouting.Cli

/-- How a host is routed without a service to ask. -/
structure LocalRouting where
  backend : Text := "backend".toList
  frontend : Text := "frontend".toList
  service : Option Text := none
  port : UInt16 := defaultPort
  skipMiddlewares : Bool := false
  deriving DecidableEq, Repr

/-- The plan of a local routing: a named service takes all of it. -/
def LocalRouting.plan (r : LocalRouting) : RoutingPlan where
  backend := r.service.getD r.backend
  frontend := r.service.getD r.frontend
  separate := r.service.isNone
  skipMiddlewares := r.skipMiddlewares
  port := r.port
  certResolver := defaultCertResolver
  redirectMiddleware := defaultRedirectMiddleware

inductive Command where
  | addHost (hostname : Text) (overrides : Overrides)
  | deleteHost (hostname : Text) (overrides : Overrides)
  | config (overrides : Overrides)
  | services (overrides : Overrides)
  | health
  | render (hostname : Text) (routing : LocalRouting) (policy : MatchPolicy)
  | insert (file hostname : Text) (routing : LocalRouting) (policy : MatchPolicy)
  | remove (file hostname : Text) (policy : MatchPolicy)
  | bindings (file : Text)
  deriving DecidableEq, Repr

/-- The declaration of a command. -/
structure CommandSpec where
  name : String
  about : String
  positionals : List String
  options : List OptionSpec
  build : Given → Option Command

def isPort (t : Text) : Bool := (port? t).isSome

def skipOption : OptionSpec := { name := "skip-middlewares" }
def strictOption : OptionSpec := { name := "strict" }

def fileOption : OptionSpec where
  name := "file"
  letter := some 'f'
  value := some "FILE"
  accepts t := !t.isEmpty

/-- What a call to a service can override. -/
def overrideOptions : List OptionSpec :=
  [{ name := "application-id", value := some "APPLICATION_ID" },
    { name := "api-key", value := some "API_KEY" },
    { name := "api-domain", value := some "API_DOMAIN" },
    { name := "backend-service", value := some "BACKEND_SERVICE" },
    { name := "frontend-service", value := some "FRONTEND_SERVICE" },
    { name := "service-name", value := some "SERVICE_NAME" },
    { name := "service-port", value := some "SERVICE_PORT", accepts := isPort },
    skipOption]

def routingOptions : List OptionSpec :=
  [{ name := "backend-service", value := some "BACKEND_SERVICE", default := some "backend" },
    { name := "frontend-service", value := some "FRONTEND_SERVICE", default := some "frontend" },
    { name := "service-name", value := some "SERVICE_NAME",
      help := "Route everything to one service instead" },
    { name := "port", value := some "PORT", accepts := isPort, default := some "8080" },
    skipOption, strictOption]

namespace Given

def overrides (g : Given) : Overrides where
  apiKey := g.option? "api-key"
  apiDomain := g.option? "api-domain"
  applicationId := g.option? "application-id"
  backendService := g.option? "backend-service"
  frontendService := g.option? "frontend-service"
  serviceName := g.option? "service-name"
  servicePort := (g.option? "service-port").bind port?
  skipMiddlewares := if g.isOn "skip-middlewares" then some true else none

def routing (g : Given) : LocalRouting where
  backend := (g.option? "backend-service").getD "backend".toList
  frontend := (g.option? "frontend-service").getD "frontend".toList
  service := g.option? "service-name"
  port := ((g.option? "port").bind port?).getD defaultPort
  skipMiddlewares := g.isOn "skip-middlewares"

def policy (g : Given) : MatchPolicy := .ofStrict (g.isOn "strict")

def hostname? (g : Given) : Option Text := g.positionals.head?

def file? (g : Given) : Option Text := g.option? "file"

end Given

def commandSpecs : List CommandSpec :=
  [{ name := "add-host", about := "Add routing for a host", positionals := ["HOSTNAME"]
     options := overrideOptions
     build := fun g => g.hostname?.map (.addHost · g.overrides) },
    { name := "delete-host", about := "Remove routing for a host", positionals := ["HOSTNAME"]
      options := overrideOptions
      build := fun g => g.hostname?.map (.deleteHost · g.overrides) },
    { name := "config", about := "Print the stored configuration", positionals := []
      options := overrideOptions
      build := fun g => some (.config g.overrides) },
    { name := "services", about := "List service URLs", positionals := []
      options := overrideOptions
      build := fun g => some (.services g.overrides) },
    { name := "health", about := "Check service health", positionals := [], options := []
      build := fun _ => some .health },
    { name := "render", about := "Print the blocks that would be added for a host"
      positionals := ["HOSTNAME"], options := routingOptions
      build := fun g => g.hostname?.map (.render · g.routing g.policy) },
    { name := "insert", about := "Add a host to a local document and print the result"
      positionals := ["HOSTNAME"], options := fileOption :: routingOptions
      build := fun g => do return .insert (← g.file?) (← g.hostname?) g.routing g.policy },
    { name := "remove", about := "Remove a host from a local document and print the result"
      positionals := ["HOSTNAME"], options := [fileOption, strictOption]
      build := fun g => do return .remove (← g.file?) (← g.hostname?) g.policy },
    { name := "bindings", about := "List service bindings in a local document"
      positionals := [], options := [fileOption]
      build := fun g => g.file?.map .bindings }]

def defaultUrl : String := "http://localhost:8080"

def urlOption : OptionSpec where
  name := "url"
  letter := some 'u'
  value := some "URL"
  default := some defaultUrl

/-- A command and the service that it asks, if it asks one. -/
structure Invocation where
  url : Text
  command : Command
  deriving DecidableEq, Repr

/-- What the help command is asked about. -/
inductive HelpTopic where
  | program
  | command (spec : CommandSpec)
  | help

/-- What a command line asks for. -/
inductive Parsed where
  | run (invocation : Invocation)
  | help (topic : HelpTopic)
  | usage (error : UsageError)

def findCommand? (name : Text) : Option CommandSpec :=
  commandSpecs.find? fun c => c.name.toList = name

/-- The command that arguments after its name make. -/
def CommandSpec.read (c : CommandSpec) (url : Text) (arguments : List Text) : Parsed :=
  match readArguments c.options c.positionals.length {} none arguments with
  | .error .help => .help (.command c)
  | .error (.usage error) => .usage error
  | .ok given =>
    match c.build given with
    | some command => .run ⟨url, command⟩
    | none => .usage (.missing c.name.toList)

/-- What is asked of the help command; it takes at most one topic. -/
def readHelp : List Text → Parsed
  | [] => .help .program
  | [topic] =>
    match findCommand? topic with
    | some c => .help (.command c)
    | none => if topic = "help".toList then .help .help else .usage (.unknown topic)
  | _ :: topic :: _ => .usage (.unknown topic)

def readCommandLine (arguments : List Text) : Parsed :=
  match readLeading [urlOption] {} none arguments with
  | .error .help => .help .program
  | .error (.usage error) => .usage error
  | .ok (given, name, rest) =>
    match findCommand? name with
    | some c => c.read ((given.option? "url").getD defaultUrl.toList) rest
    | none => if name = "help".toList then readHelp rest else .usage (.unknown name)

end HostRouting.Cli
