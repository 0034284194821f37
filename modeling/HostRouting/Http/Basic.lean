import HostRouting.Text.Digits

/-!
# HTTP messages

Requests and responses as values. Header names compare without regard to case and the
first of several fields with one name counts. The path of a request is taken from its
target without decoding anything.
-/
namespace HostRouting.Http

abbrev Headers := List (Text × Text)

def lowerCase (t : Text) : Text := t.map Char.toLower

/-- The value of the first field of a name; the name is given in lower case. -/
def Headers.first? (headers : Headers) (name : Text) : Option Text :=
  (headers.find? fun field => lowerCase field.1 = name).map (·.2)

structure Request where
  method : Text
  target : Text
  headers : Headers
  body : Text
  deriving DecidableEq, Repr

/-- A value that a header field can hold: no controls but the tab. -/
def isFieldValue (t : Text) : Bool :=
  t.all fun c => c = '\t' || (0x20 ≤ c.toNat && c.toNat ≠ 0x7F)

def isTargetEnd (c : Char) : Bool := c = '?' || c = '#'

/-- What follows the scheme of a target in absolute form. -/
def afterScheme? (target : Text) : Option Text :=
  match Text.splitFirst? ':' target with
  | some (scheme, '/' :: '/' :: rest) =>
    if scheme.all (fun c => c.isAlphanum || "+-.".toList.contains c) && !scheme.isEmpty then
      some rest
    else none
  | _ => none

/-- The path that a request target names. In absolute form it follows the authority, and
is a slash when nothing does; a target in any other form names a path only when it starts
with a slash. -/
def pathOf? (target : Text) : Option Text :=
  let t := target.takeWhile fun c => !isTargetEnd c
  match t with
  | '/' :: _ => some t
  | _ =>
    (afterScheme? t).map fun rest =>
      match rest.dropWhile (· ≠ '/') with
      | [] => ['/']
      | path => path

end HostRouting.Http
