import HostRouting.Text.Basic

/-!
# Lines ended by a terminator

A block of text is written as lines that each end in a line feed, and read back the
same way: a line feed ends a line, together with one carriage return directly before
it. A lone carriage return is an ordinary character, and text after the last line
feed is a line of its own, kept as it stands. Splitting at separators, where the
carriage return stays, is `List.splitOn`.
-/
namespace HostRouting.Text

/-- Each line followed by a line feed. -/
def ofLines (lines : List Text) : Text := lines.flatMap (· ++ ['\n'])

/-- The line without the carriage return that belongs to its terminator. -/
def dropReturn (line : Text) : Text :=
  if line.getLast? = some '\r' then line.dropLast else line

/-- The lines of a text whose lines end in `\n` or `\r\n`. -/
def terminatedLines (t : Text) : List Text :=
  match (t.splitOn '\n').reverse with
  | [] => []
  | rest :: ended =>
    (ended.map dropReturn).reverse ++ if rest = [] then [] else [rest]

@[simp] theorem ofLines_nil : ofLines [] = [] := rfl

@[simp] theorem ofLines_cons (line : Text) (lines : List Text) :
    ofLines (line :: lines) = line ++ '\n' :: ofLines lines := by
  simp [ofLines]

@[simp] theorem ofLines_append (xs ys : List Text) :
    ofLines (xs ++ ys) = ofLines xs ++ ofLines ys := by
  simp [ofLines]

end HostRouting.Text
