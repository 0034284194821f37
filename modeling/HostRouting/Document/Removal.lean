import HostRouting.Document.Section
import HostRouting.Document.Entity

/-!
# Removal of a host

One pass over the lines drops every block of a host. The scanner knows the section it
is in, hence the indentation of its members; a block reaches from the line that opens
it to the next visible line indented no deeper than a member. That line is examined
again, so that neighbouring blocks of one host go together. What is kept is verbatim.
-/
namespace HostRouting

/-- The deepest indentation at which a line can be a section header. -/
def maxHeaderIndent : Nat := nestWidth

/-- The indentation of members before any header has been seen. -/
def defaultMemberIndent : Nat := SectionHeader.routers.memberIndent

/-- Where the scanner stands; `enclosing` is the section around a block. -/
inductive ScanState where
  | outside
  | inSection (name : Text) (memberIndent : Nat)
  | inBlock (owner : Text) (enclosing : Option Text) (memberIndent : Nat)
  deriving DecidableEq, Repr

namespace ScanState

def memberIndent : ScanState → Nat
  | outside => defaultMemberIndent
  | inSection _ indent => indent
  | inBlock _ _ indent => indent

def sectionName : ScanState → Option Text
  | outside => none
  | inSection name _ => some name
  | inBlock _ enclosing _ => enclosing

/-- The state behind a block. -/
def resume : ScanState → ScanState
  | inBlock _ (some name) indent => inSection name indent
  | inBlock _ none _ => outside
  | state => state

end ScanState

/-- A shallow line that ends in a colon, holds more than it, and is no comment. -/
def isHeaderLine (line : Text) : Bool :=
  let trimmed := Text.trim line
  indentOf line ≤ maxHeaderIndent && trimmed.head? != some '#' &&
    1 < trimmed.length && trimmed.getLast? == some ':'

/-- The state after a line that is kept. -/
def ScanState.enter (state : ScanState) (line : Text) : ScanState :=
  if isHeaderLine line then
    .inSection (dropEndWhile (· = ':') (Text.trim line)) (indentOf line + nestWidth)
  else state

/-- One line: the next state, and whether the line is kept. -/
def ScanState.step (policy : MatchPolicy) (e : Entity) (state : ScanState) (line : Text) :
    ScanState × Bool :=
  if policy.startsBlock e line then
    (.inBlock (policy.tag e) state.sectionName state.memberIndent, false)
  else
    match state with
    | .inBlock _ _ indent =>
      if Text.isBlank line || indent < indentOf line then (state, false)
      else (state.resume.enter line, true)
    | _ => (state.enter line, true)

/-- The lines that the scanner keeps from a state on. -/
def keptLines (policy : MatchPolicy) (e : Entity) : ScanState → List Text → List Text
  | _, [] => []
  | state, line :: rest =>
    let next := state.step policy e line
    if next.2 then line :: keptLines policy e next.1 rest else keptLines policy e next.1 rest

def Document.removeHost (policy : MatchPolicy) (e : Entity) (d : Document) : Document :=
  Document.trimBlankEdges ⟨keptLines policy e .outside d.lines⟩

end HostRouting
