import HostRouting.Cli.Help
import HostRouting.Cli.Remote
import HostRouting.Document.Editor
import HostRouting.Http.Status
import HostRouting.Json.Bounded
import HostRouting.Json.Printer
import HostRouting.Json.Reader
import HostRouting.Json.Sorted
import HostRouting.Text.Quoted

/-!
# Running commands

A command line runs to an outcome: an exit code and what is printed. Files are read
through a function, and a service is a peer that a client asks. Usage errors exit with 2, all
other errors with 1; a service that refuses is reported, and that is no error.
-/
namespace HostRouting.Cli

structure Outcome where
  exit : Nat := 0
  stdout : Text := []
  stderr : Text := []
  deriving DecidableEq, Repr

/-- Why a file cannot be read. -/
inductive FileError where
  | notFound
  | isDirectory
  | permissionDenied
  | notText
  | other
  deriving DecidableEq, Repr

/-- The failure of a command. -/
inductive RunError where
  | file (error : FileError)
  | edit (error : EditError)
  | client
  deriving DecidableEq, Repr

/-- A failure of the system with its number, its kind and its message. -/
def systemError (code : Nat) (kind message : String) : Text :=
  "Os \x7b code: ".toList ++ Text.ofNat code ++ ", kind: ".toList ++ kind.toList ++
    ", message: ".toList ++ Text.quoted message.toList ++ " \x7d".toList

def FileError.text : FileError → Text
  | .notFound => systemError 2 "NotFound" "No such file or directory"
  | .isDirectory => systemError 21 "IsADirectory" "Is a directory"
  | .permissionDenied => systemError 13 "PermissionDenied" "Permission denied"
  | .notText =>
    "Error \x7b kind: InvalidData, message: ".toList ++
      Text.quoted "stream did not contain valid UTF-8".toList ++ " \x7d".toList
  | .other => systemError 5 "Uncategorized" "Input/output error"

def RunError.text : RunError → Text
  | .file error => error.text
  | .edit .emptyHost => "EmptyEntity".toList
  | .edit (.missingSection name) =>
    "MalformedDocument \x7b missing: ".toList ++ Text.quoted name ++ " \x7d".toList
  | .client => "<http client error>".toList

def RunError.outcome (e : RunError) : Outcome :=
  { exit := 1, stderr := "Error: ".toList ++ e.text ++ ['\n'] }

/-- The outcome of a command that prints a text or fails. -/
def printed : Except RunError Text → Outcome
  | .ok t => { stdout := t }
  | .error error => error.outcome

def entity (hostname : Text) : Except RunError Entity :=
  match Entity.ofText hostname with
  | .ok e => .ok e
  | .error error => .error (.edit error)

/-- Files by their paths. -/
abbrev Files := Text → Except FileError Text

def readDocument (files : Files) (path : Text) : Except RunError Document :=
  match files path with
  | .ok t => .ok (Document.ofText t)
  | .error error => .error (.file error)

/-- The blocks that a host would get. -/
def renderBlocks (plan : RoutingPlan) (policy : MatchPolicy) (e : Entity) : Text :=
  plan.routerBlock policy e ++ if plan.separate then [] else plan.serviceBlock policy e

def alreadyThere (hostname : Text) : Text :=
  "Host '".toList ++ hostname ++ "' already exists\n".toList

/-- Adds a host to a document; one that is there already is only reported. -/
def insertHost (d : Document) (hostname : Text) (plan : RoutingPlan) (policy : MatchPolicy)
    (e : Entity) : Outcome :=
  match d.addHost policy e plan with
  | .error error => (RunError.edit error).outcome
  | .ok (.inserted updated) => { stdout := updated.toText }
  | .ok .alreadyExists => { stdout := d.toText, stderr := alreadyThere hostname }

def bindingJson (b : ServiceBinding) : Json :=
  .record [("name", .text b.name), ("target", .text b.target), ("policy", .text b.policy)]

/-- A value on lines of its own. -/
def printValue (j : Json) : Text := j.printIndented 0 ++ ['\n']

/-- A command that needs no service; none for the others. The file is read before the host is
looked at. -/
def Command.runLocal? (files : Files) : Command → Option Outcome
  | .render hostname routing policy =>
    some (printed ((entity hostname).map fun e => renderBlocks routing.plan policy e))
  | .insert file hostname routing policy =>
    some (match readDocument files file, entity hostname with
      | .error error, _ => error.outcome
      | .ok _, .error error => error.outcome
      | .ok d, .ok e => insertHost d hostname routing.plan policy e)
  | .remove file hostname policy =>
    some (match readDocument files file, entity hostname with
      | .error error, _ => error.outcome
      | .ok _, .error error => error.outcome
      | .ok d, .ok e => { stdout := (d.removeHost policy e).toText })
  | .bindings file =>
    some (printed ((readDocument files file).map fun d =>
      printValue (.array (d.bindings.map bindingJson))))
  | _ => none

/-- The value in the body of a response. -/
def responseValue? (r : Http.Response) : Option Json :=
  match r.bytes with
  | .error _ => none
  | .ok bytes =>
    if Text.utf8Bytes (Text.ofUtf8 bytes) = bytes then
      (Json.ofText? (Text.ofUtf8 bytes)).filter (Json.isHoldable 127)
    else none

/-- What is printed of a response: the value of a success, and the status and text of all
others. -/
def report (r : Http.Response) : Outcome :=
  if Http.isSuccess r.status then
    match responseValue? r with
    | some value => { stdout := printValue value.sorted }
    | none => RunError.client.outcome
  else
    { stderr :=
        "Error: API returned status ".toList ++ Http.statusLine r.status ++ ['\n'] ++
          match r.text with
          | .ok t => "Response: ".toList ++ t ++ ['\n']
          | .error _ => [] }

variable {σ : Type}

/-- Asks the service and reports what it says. -/
def RemoteCall.run (c : RemoteCall) (base : Text) (client : Http.Client) (peer : Http.Peer σ)
    (s : σ) : Outcome × σ :=
  match c.request base with
  | .error _ => (RunError.client.outcome, s)
  | .ok request =>
    match client.send peer request s with
    | (.ok response, s) => (report response, s)
    | (.error _, s) => (RunError.client.outcome, s)

def Invocation.run (i : Invocation) (files : Files) (client : Http.Client) (peer : Http.Peer σ)
    (s : σ) : Outcome × σ :=
  match i.command.remoteCall? with
  | some call => call.run i.url client peer s
  | none => ((i.command.runLocal? files).getD {}, s)

/-- The file that a command line reads. -/
def fileOf? (arguments : List Text) : Option Text :=
  match readCommandLine arguments with
  | .run ⟨_, .insert file _ _ _⟩ => some file
  | .run ⟨_, .remove file _ _⟩ => some file
  | .run ⟨_, .bindings file⟩ => some file
  | _ => none

/-- The outcome of a command line. Without any argument the help is an error. -/
def run (arguments : List Text) (files : Files) (client : Http.Client) (peer : Http.Peer σ)
    (s : σ) : Outcome × σ :=
  match arguments with
  | [] => ({ exit := 2, stderr := programHelp }, s)
  | _ =>
    match readCommandLine arguments with
    | .run invocation => invocation.run files client peer s
    | .help topic => ({ stdout := topic.text }, s)
    | .usage error => ({ exit := 2, stderr := "error: ".toList ++ error.message ++ ['\n'] }, s)

end HostRouting.Cli
