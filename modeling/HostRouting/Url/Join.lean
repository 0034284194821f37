import HostRouting.Url.Reader

/-!
# References

A reference is read against the URL of the place where it stands. With a scheme of its
own it is a URL already; without one it takes over from that URL all that comes before
the part it starts with. Only web addresses are such places, so a backslash counts as a
slash, and their own scheme before less than two slashes counts for nothing.
-/
namespace HostRouting.Url

/-- A URL up to the end of its authority. -/
def origin (u : Url) : Text := u.scheme ++ ':' :: u.authorityPart

/-- A path up to its last slash. -/
def directory (path : Text) : Text := dropEndWhile (· ≠ '/') path

/-- What a reference without a scheme takes over. -/
def inherited (u : Url) (reference : Text) : Text :=
  match (reference.takeWhile (isPathSlash .special)).length, reference with
  | 0, [] => u.origin ++ u.path ++ u.queryPart
  | 0, '#' :: _ => u.origin ++ u.path ++ u.queryPart
  | 0, '?' :: _ => u.origin ++ u.path
  | 0, _ => u.origin ++ directory u.path
  | 1, _ => u.origin
  | _, _ => u.scheme ++ [':']

/-- The URL that a reference names. -/
def join? (u : Url) (reference : Text) : Option Url :=
  let t := cleanInput reference
  match readScheme? t with
  | none => (ofText (u.inherited t ++ t)).toOption
  | some (scheme, rest) =>
    if scheme = u.scheme && (rest.takeWhile (isPathSlash .special)).length < 2 then
      (ofText (u.inherited rest ++ rest)).toOption
    else (ofText t).toOption

end HostRouting.Url
