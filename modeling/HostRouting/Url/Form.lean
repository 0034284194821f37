import HostRouting.Url.Percent

/-!
# Form encoding of query pairs

Names and values in the form `application/x-www-form-urlencoded`: letters, digits and
`*-._` stand for themselves, a space is a plus sign, and every other byte is escaped.
-/
namespace HostRouting.Url

/-- The characters that stand for themselves in a form. -/
def isFormChar (c : Char) : Bool := c.isAlphanum || "*-._".toList.contains c

def formChar (c : Char) : Text :=
  if c = ' ' then ['+'] else escapeChar (fun c => !isFormChar c) c

def formEncode (t : Text) : Text := t.flatMap formChar

def formPair (name value : Text) : Text := formEncode name ++ '=' :: formEncode value

/-- A query with one more pair at its end. -/
def appendPair (query : Option Text) (name value : Text) : Text :=
  match query with
  | none => formPair name value
  | some [] => formPair name value
  | some q => q ++ '&' :: formPair name value

end HostRouting.Url
