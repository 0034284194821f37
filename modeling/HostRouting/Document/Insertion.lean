import HostRouting.Document.Section
import HostRouting.Document.Entity

/-!
# Insertion of blocks

A router block goes before the first section that may follow `routers:`, a service
block to the end of `services:`, which is created at the end of `http:` where it is
missing. The block is shifted under its section and closed by exactly one blank line;
all other visible lines stay as they are, in their order. A host whose marker stands
anywhere in the document is not inserted again.
-/
namespace HostRouting

/-- The result of an insertion that does not fail. -/
inductive Insertion where
  | inserted (document : Document)
  | alreadyExists
  deriving DecidableEq, Repr

/-- A line shifted right; a blank line becomes empty instead. -/
def indentLine (width : Nat) (line : Text) : Text :=
  if Text.isBlank line then [] else List.replicate width ' ' ++ line

/-- The lines of a block under a section, with one empty line for all trailing blank ones. -/
def indentBlock (block : Text) (width : Nat) : List Text :=
  dropEndWhile List.isEmpty ((Text.terminatedLines block).map (indentLine width)) ++ [[]]

namespace Document

def requireHeader (d : Document) (h : SectionHeader) : Except EditError Nat :=
  match d.findHeader? h 0 with
  | some line => .ok line
  | none => .error (.missingSection h.name)

def insertBlock (d : Document) (e : Entity) (block : Text) : Except EditError Insertion :=
  if d.contains e.marker then .ok .alreadyExists
  else
    match d.requireHeader .routers with
    | .error error => .error error
    | .ok line =>
      .ok (.inserted (d.splice (d.insertionPoint line SectionHeader.routerSuccessors)
        (indentBlock block SectionHeader.routers.memberIndent)))

/-- The line `services:` as it is written where the section is missing. -/
def servicesLine : Text :=
  List.replicate SectionHeader.services.indent ' ' ++ SectionHeader.services.name ++ [':']

def insertServiceBlock (d : Document) (block : Text) : Except EditError Document :=
  let lines := indentBlock block SectionHeader.services.memberIndent
  match d.findHeader? .services 0 with
  | some line => .ok (d.splice (d.sectionEnd line) lines)
  | none =>
    match d.requireHeader .http with
    | .error error => .error error
    | .ok line => .ok (d.splice (d.sectionEnd line) (servicesLine :: lines))

end Document
end HostRouting
