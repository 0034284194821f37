import HostRouting.Config.Basic

/-!
# The environment

Three variables give store coordinates and win over the configuration. A blank value
counts as none; any other is taken as it stands.
-/
namespace HostRouting

/-- The values of environment variables. -/
abbrev Environment := Text → Option Text

namespace Environment

def apiKeyVariable : Text := "DOKPLOY_API_KEY".toList
def apiDomainVariable : Text := "DOKPLOY_API_DOMAIN".toList
def applicationIdVariable : Text := "DOKPLOY_APPLICATION_ID".toList

/-- The value of a variable, or else the given one. -/
def valueOr (env : Environment) (variableName default : Text) : Text :=
  ((env variableName).filter fun value => !Text.isBlank value).getD default

def overStore (env : Environment) (s : StoreTarget) : StoreTarget :=
  ⟨env.valueOr apiDomainVariable s.apiDomain, env.valueOr apiKeyVariable s.apiKey,
    env.valueOr applicationIdVariable s.applicationId⟩

end Environment

/-- The configuration with the coordinates of the environment. -/
def AppConfig.withEnvironment (env : Environment) (c : AppConfig) : AppConfig :=
  { c with store := env.overStore c.store }

end HostRouting
