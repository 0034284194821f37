import HostRouting.Config.Environment
import HostRouting.Config.Reading
import HostRouting.Config.Validation
import HostRouting.Toml.Reader

/-!
# Loading the configuration

A configuration file is a TOML document that is read as a record. The environment is laid
over it, and only a configuration without problems is used. Where a file may be missing,
the defaults stand for it and take the same way.
-/
namespace HostRouting

/-- Why there is no configuration. -/
inductive LoadError where
  | missingFile
  | unreadable
  | invalid (problems : List ConfigProblem)
  deriving DecidableEq, Repr

/-- The configuration that the text of a file denotes. -/
def AppConfig.ofToml? (t : Text) : Option AppConfig :=
  (Toml.ofText? t).bind fun document => AppConfig.read? .ignored document.toJson

/-- The configuration under an environment, if it has no problems. -/
def AppConfig.validated (env : Environment) (c : AppConfig) : Except LoadError AppConfig :=
  match (c.withEnvironment env).problems with
  | [] => .ok (c.withEnvironment env)
  | problems => .error (.invalid problems)

def AppConfig.load (env : Environment) (file : Option Text) : Except LoadError AppConfig :=
  match file with
  | none => .error .missingFile
  | some t =>
    match AppConfig.ofToml? t with
    | none => .error .unreadable
    | some c => c.validated env

/-- Like `load`, but a missing file stands for the defaults. -/
def AppConfig.loadOrDefault (env : Environment) (file : Option Text) :
    Except LoadError AppConfig :=
  match file with
  | none => AppConfig.validated env {}
  | some t => AppConfig.load env (some t)

end HostRouting
