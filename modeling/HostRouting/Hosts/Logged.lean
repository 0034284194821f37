import HostRouting.Hosts.Overrides
import HostRouting.Text.Quoted

/-!
# Records in logs

How the records that may hold a key are written to a log: the name of the record and all
its fields, with a fixed word in place of a key. Whether a key is present may show, and
nothing else of it.
-/
namespace HostRouting

/-- A record by its name and its fields. -/
def loggedRecord (name : String) (fields : List (String × Text)) : Text :=
  name.toList ++ " \x7b ".toList ++
    ", ".toList.intercalate (fields.map fun f => f.1.toList ++ ": ".toList ++ f.2) ++
    " \x7d".toList

def loggedOption (write : α → Text) : Option α → Text
  | some a => "Some(".toList ++ write a ++ [')']
  | none => "None".toList

def loggedBool (b : Bool) : Text := if b then "true".toList else "false".toList

def loggedPort (p : UInt16) : Text := Text.ofNat p.toNat

/-- What stands in a log for a key. -/
def loggedKey (_ : Text) : Text := Text.quoted "<redacted>".toList

def StoreTarget.loggedFields (s : StoreTarget) : List (String × Text) :=
  [("api_domain", Text.quoted s.apiDomain), ("api_key", loggedKey s.apiKey),
    ("application_id", Text.quoted s.applicationId)]

/-- A target of a call. -/
def StoreTarget.logged (s : StoreTarget) : Text := loggedRecord "StoreTarget" s.loggedFields

/-- The store section of a configuration. -/
def AppConfig.loggedStore (c : AppConfig) : Text := loggedRecord "StoreConfig" c.store.loggedFields

def Overrides.logged (o : Overrides) : Text :=
  loggedRecord "Overrides"
    [("dokploy_api_key", loggedOption loggedKey o.apiKey),
      ("api_domain", loggedOption Text.quoted o.apiDomain),
      ("application_id", loggedOption Text.quoted o.applicationId),
      ("backend_service", loggedOption Text.quoted o.backendService),
      ("frontend_service", loggedOption Text.quoted o.frontendService),
      ("service_name", loggedOption Text.quoted o.serviceName),
      ("service_port", loggedOption loggedPort o.servicePort),
      ("skip_middlewares", loggedOption loggedBool o.skipMiddlewares)]

def DefaultsUpdate.logged (u : DefaultsUpdate) : Text :=
  loggedRecord "DefaultsUpdate"
    [("dokploy_api_key", loggedOption loggedKey u.apiKey),
      ("api_domain", loggedOption Text.quoted u.apiDomain),
      ("application_id", loggedOption Text.quoted u.applicationId),
      ("backend_service", loggedOption Text.quoted u.backendService),
      ("frontend_service", loggedOption Text.quoted u.frontendService),
      ("single_service", loggedOption Text.quoted u.singleService),
      ("single_service_port", loggedOption loggedPort u.singleServicePort),
      ("skip_middlewares", loggedOption loggedBool u.skipMiddlewares)]

end HostRouting
