import HostRouting.Document.Entity

/-!
# Generated blocks

The router and service blocks written for a host. A plan either keeps two services
apart, with one pair of routers for `/api` and one for everything else, or sends all
traffic to one shared service, which then needs a service block. Every pair is a plain
router and its `-websecure` twin. Blocks start at column zero, and every router and
service definition ends in one blank line.
-/
namespace HostRouting

def defaultPort : UInt16 := 8080
def defaultCertResolver : Text := "letsencrypt".toList
def defaultRedirectMiddleware : Text := "redirect-to-https".toList

/-- What the routers of a host forward to, and how they are wired. -/
structure RoutingPlan where
  backend : Text
  frontend : Text
  separate : Bool := true
  skipMiddlewares : Bool := false
  port : UInt16 := defaultPort
  certResolver : Text := defaultCertResolver
  redirectMiddleware : Text := defaultRedirectMiddleware
  deriving DecidableEq, Repr

/-- What a router carries besides its rule and service. -/
inductive Attachment where
  | middleware (name : Text)
  | noMiddlewares
  | entryPoint (name : Text)
  deriving DecidableEq, Repr

def Attachment.lines : Attachment → List Text
  | .middleware name => ["  middlewares:".toList, "    - ".toList ++ name]
  | .noMiddlewares => ["  middlewares: []".toList]
  | .entryPoint name => ["  entryPoints:".toList, "    - ".toList ++ name]

structure Router where
  name : Text
  rule : Text
  service : Text
  attachment : Attachment
  certResolver : Option Text
  deriving DecidableEq, Repr

namespace Router

def tlsLines : Option Text → List Text
  | some resolver => ["  tls:".toList, "    certResolver: ".toList ++ resolver]
  | none => []

def lines (r : Router) : List Text :=
  [r.name ++ [':'], "  rule: ".toList ++ r.rule, "  service: ".toList ++ r.service] ++
    r.attachment.lines ++ tlsLines r.certResolver ++ [[]]

/-- A plain router and its secure twin. -/
def pair (name rule service certResolver : Text) (plain secure : Attachment) : List Router :=
  [⟨name, rule, service, plain, none⟩,
    ⟨name ++ "-websecure".toList, rule, service, secure, some certResolver⟩]

end Router

def webEntryPoint : Attachment := .entryPoint "web".toList
def secureEntryPoint : Attachment := .entryPoint "websecure".toList

namespace RoutingPlan

/-- The attachments of a pair of routers to separate services. -/
def attachments (plan : RoutingPlan) : Attachment × Attachment :=
  if plan.skipMiddlewares then (webEntryPoint, secureEntryPoint)
  else (.middleware plan.redirectMiddleware, .noMiddlewares)

def separatePair (plan : RoutingPlan) (name rule service : Text) : List Router :=
  Router.pair name rule service plan.certResolver plan.attachments.1 plan.attachments.2

/-- A header comment, then the routers under it. -/
def groupLines (comment : Text) (routers : List Router) : List Text :=
  comment :: routers.flatMap Router.lines

def routerLines (plan : RoutingPlan) (policy : MatchPolicy) (e : Entity) : List Text :=
  let tag := policy.tag e
  if plan.separate then
    groupLines (BlockKind.backendRouter.comment e)
        (plan.separatePair (BlockKind.backendRouter.name tag)
          (e.marker ++ " && PathPrefix(`/api`)".toList) plan.backend) ++
      groupLines (BlockKind.frontendRouter.comment e)
        (plan.separatePair (BlockKind.frontendRouter.name tag)
          (e.marker ++ " && !PathPrefix(`/api`)".toList) plan.frontend)
  else
    groupLines (BlockKind.router.comment e)
      (Router.pair (BlockKind.router.name tag) e.marker (BlockKind.service.name tag)
        plan.certResolver webEntryPoint secureEntryPoint)

/-- The definition of the shared service: one server, the backend at the plan's port. -/
def serviceLines (plan : RoutingPlan) (policy : MatchPolicy) (e : Entity) : List Text :=
  [BlockKind.service.comment e,
    BlockKind.service.name (policy.tag e) ++ [':'],
    "  loadBalancer:".toList,
    "    servers:".toList,
    "    - url: http://".toList ++ plan.backend ++ [':'] ++ Text.ofNat plan.port.toNat,
    "    passHostHeader: true".toList,
    []]

def routerBlock (plan : RoutingPlan) (policy : MatchPolicy) (e : Entity) : Text :=
  Text.ofLines (plan.routerLines policy e)

def serviceBlock (plan : RoutingPlan) (policy : MatchPolicy) (e : Entity) : Text :=
  Text.ofLines (plan.serviceLines policy e)

end RoutingPlan
end HostRouting
