import HostRouting.Text.Lines

/-!
# Documents as lists of lines

A routing document is never parsed: it is the ordered list of its lines, each kept
verbatim. Indentation counts leading spaces only, so a tab is content. Reading splits
at line feeds and drops the one empty piece that a final line feed leaves; writing
ends every line in a line feed and leaves out trailing blank lines.
-/
namespace HostRouting

structure Document where
  lines : List Text
  deriving DecidableEq, Repr

/-- The number of leading spaces. -/
def indentOf (line : Text) : Nat := (line.takeWhile (· = ' ')).length

namespace Document

def empty : Document := ⟨[]⟩

def length (d : Document) : Nat := d.lines.length

def ofText (t : Text) : Document :=
  let pieces := t.splitOn '\n'
  ⟨if pieces.getLast? = some [] then pieces.dropLast else pieces⟩

def toText (d : Document) : Text := Text.ofLines (dropEndWhile Text.isBlank d.lines)

/-- Whether some single line holds `needle`. -/
def contains (d : Document) (needle : Text) : Bool := d.lines.any (Text.occursIn needle)

/-- The document without blank lines at either end. -/
def trimBlankEdges (d : Document) : Document :=
  ⟨dropEndWhile Text.isBlank (d.lines.dropWhile Text.isBlank)⟩

/-- Puts `inserted` before line `position`, in place of the blank lines directly above it. -/
def splice (d : Document) (position : Nat) (inserted : List Text) : Document :=
  ⟨dropEndWhile Text.isBlank (d.lines.take position) ++ inserted ++ d.lines.drop position⟩

end Document
end HostRouting
