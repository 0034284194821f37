import HostRouting.Document.Block
import HostRouting.Document.Insertion
import HostRouting.Document.Removal
import HostRouting.Document.Binding

/-!
# Edits of whole hosts

Adding a host writes its router block and, for a shared service, the service block as
well; both succeed or the document stays as it was. Removing a host is
`Document.removeHost`, listing services `Document.bindings`.
-/
namespace HostRouting.Document

def addHost (policy : MatchPolicy) (e : Entity) (plan : RoutingPlan) (d : Document) :
    Except EditError Insertion :=
  match d.insertBlock e (plan.routerBlock policy e) with
  | .error error => .error error
  | .ok .alreadyExists => .ok .alreadyExists
  | .ok (.inserted routed) =>
    if plan.separate then .ok (.inserted routed)
    else (routed.insertServiceBlock (plan.serviceBlock policy e)).map .inserted

end HostRouting.Document
