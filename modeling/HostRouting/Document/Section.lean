import HostRouting.Document.Basic

/-!
# Sections found by their header lines

A section opens at a line that holds its name at a fixed indentation, followed by a
colon and then nothing or white space. It reaches to the next visible line that is not
indented deeper. Positions are line numbers from zero; "not found" is the length of
the document where an insertion needs a place in any case.
-/
namespace HostRouting

/-- The step between the indentation of a header and that of its members. -/
def nestWidth : Nat := 2

structure SectionHeader where
  name : Text
  indent : Nat
  deriving DecidableEq, Repr

namespace SectionHeader

def topLevel (name : Text) : SectionHeader := ⟨name, 0⟩

def nested (name : Text) : SectionHeader := ⟨name, nestWidth⟩

def memberIndent (h : SectionHeader) : Nat := h.indent + nestWidth

def isOn (h : SectionHeader) (line : Text) : Bool :=
  indentOf line == h.indent &&
    match (h.name ++ [':']).isPrefixOf? (line.drop h.indent) with
    | some [] => true
    | some (c :: _) => Text.isSpace c
    | none => false

def http : SectionHeader := topLevel "http".toList
def routers : SectionHeader := nested "routers".toList
def services : SectionHeader := nested "services".toList
def middlewares : SectionHeader := nested "middlewares".toList

/-- The sections that may follow `routers:`. -/
def routerSuccessors : List SectionHeader :=
  [middlewares, services, topLevel "entryPoints".toList,
    topLevel "certificatesResolvers".toList, topLevel "api".toList, topLevel "log".toList]

end SectionHeader

namespace Document

/-- The first line from `start` on that satisfies `p`. -/
def findLine? (d : Document) (p : Text → Bool) (start : Nat) : Option Nat :=
  ((d.lines.drop start).findIdx? p).map (start + ·)

def findHeader? (d : Document) (h : SectionHeader) (start : Nat) : Option Nat :=
  d.findLine? h.isOn start

/-- The first line after `line` on which one of the candidates stands, whichever it is;
without one, the end of the document. -/
def insertionPoint (d : Document) (line : Nat) (candidates : List SectionHeader) : Nat :=
  (d.findLine? (fun l => candidates.any (·.isOn l)) (line + 1)).getD d.length

/-- The first visible line after `line` that is not indented deeper than it; without one,
the end of the document. A line past the end counts as not indented. -/
def sectionEnd (d : Document) (line : Nat) : Nat :=
  let indent := (d.lines[line]?.map indentOf).getD 0
  (d.findLine? (fun l => !Text.isBlank l && indentOf l ≤ indent) (line + 1)).getD d.length

end Document
end HostRouting
