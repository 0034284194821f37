import HostRouting.Document.Section

/-!
# Service bindings

The services that a document lists under `services:`, each with the last server URL of
its body. A section opens at any line that reads `services:`, whatever its indentation;
its members are indented one step deeper. Documents do not name a load balancing
policy, so every binding has the same one. Of several bindings with one name the first
is kept.
-/
namespace HostRouting

structure ServiceBinding where
  name : Text
  target : Text
  deriving DecidableEq, Repr

def ServiceBinding.policy (_ : ServiceBinding) : Text := "roundrobin".toList

/-- Keys of a service body, which never name a service. -/
def reservedKeys : List Text :=
  ["loadBalancer".toList, "servers".toList, "middlewares".toList, "passHostHeader".toList]

/-- The name that a trimmed member line gives. -/
def serviceName? (trimmed : Text) : Option Text :=
  match [':'].isSuffixOf? trimmed with
  | some name =>
    if name.isEmpty || reservedKeys.any (Text.occursIn · trimmed) then none else some name
  | none => none

/-- The text without one matching pair of quotes around it. -/
def unquote : Text → Text
  | [] => []
  | q :: rest =>
    if (q = '\x22' || q = '\x27') && rest.getLast? == some q then rest.dropLast else q :: rest

/-- The server URL on a trimmed line of a service body. -/
def serverUrl? (trimmed : Text) : Option Text :=
  ("- url:".toList.isPrefixOf? trimmed).map fun value => unquote (Text.trim value)

/-- Where the reader of bindings stands. -/
inductive BindingState where
  | outside
  | inServices (headerIndent : Nat)
  | inBody (headerIndent : Nat) (name : Text) (target : Option Text)
  deriving DecidableEq, Repr

namespace BindingState

/-- The binding that is complete when the state is left. -/
def pending : BindingState → Option ServiceBinding
  | inBody _ name (some target) => some ⟨name, target⟩
  | _ => none

/-- A line read outside of any section. -/
def opening (line : Text) : BindingState :=
  if Text.trim line = "services:".toList then inServices (indentOf line) else outside

/-- The state after a member line of a section. -/
def member (headerIndent : Nat) (trimmed : Text) : BindingState :=
  match serviceName? trimmed with
  | some name => inBody headerIndent name none
  | none => inServices headerIndent

/-- The state after a line that is deeper than the members. -/
def deeper (trimmed : Text) : BindingState → BindingState
  | inBody headerIndent name target => inBody headerIndent name ((serverUrl? trimmed).or target)
  | state => state

/-- A line read inside a section whose header has the given indentation. -/
def inside (headerIndent : Nat) (state : BindingState) (line : Text) :
    BindingState × Option ServiceBinding :=
  if Text.isBlank line then (state, none)
  else if indentOf line ≤ headerIndent then (opening line, state.pending)
  else if indentOf line = headerIndent + nestWidth then
    (member headerIndent (Text.trim line), state.pending)
  else (deeper (Text.trim line) state, none)

/-- One line: the next state, and the binding that the line completes. -/
def step (state : BindingState) (line : Text) : BindingState × Option ServiceBinding :=
  match state with
  | outside => (opening line, none)
  | inServices headerIndent => inside headerIndent state line
  | inBody headerIndent _ _ => inside headerIndent state line

/-- All bindings from a state on, the one pending at the end included. -/
def scan : BindingState → List Text → List ServiceBinding
  | state, [] => state.pending.toList
  | state, line :: rest => (state.step line).2.toList ++ scan (state.step line).1 rest

end BindingState

/-- The first binding of each name, in order. -/
def firstOfEachName : List ServiceBinding → List ServiceBinding
  | [] => []
  | b :: rest => b :: (firstOfEachName rest).filter (·.name ≠ b.name)

def Document.bindings (d : Document) : List ServiceBinding :=
  firstOfEachName (BindingState.outside.scan d.lines)

end HostRouting
