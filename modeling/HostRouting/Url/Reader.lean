import HostRouting.Url.Host
import HostRouting.Url.Path

/-!
# Reading absolute URLs

Reading by the WHATWG URL Standard without a base URL. Spaces and controls at the ends
and tabs and line ends anywhere are dropped first. A special scheme takes any number of
slashes before its authority and never has an empty host; another scheme has an
authority only after exactly `//`, and without a slash its path is taken as it is.
-/
namespace HostRouting.Url

def isControlOrSpace (c : Char) : Bool := c.toNat ≤ 0x20

/-- The text without controls and spaces at its ends and without tabs and line ends. -/
def cleanInput (t : Text) : Text :=
  (dropEndWhile isControlOrSpace (t.dropWhile isControlOrSpace)).filter
    fun c => !(c = '\t' || c = '\n' || c = '\r')

def isSchemeChar (c : Char) : Bool := c.isAlphanum || c = '+' || c = '-' || c = '.'

/-- The scheme in lower case, and what follows its colon. -/
def readScheme? (t : Text) : Option (Text × Text) :=
  match t.head?, t.dropWhile isSchemeChar with
  | some c, ':' :: rest =>
    if c.isAlpha then some ((t.takeWhile isSchemeChar).map Char.toLower, rest) else none
  | _, _ => none

def kindOf (scheme : Text) : SchemeKind :=
  if scheme = "file".toList then .file
  else if ["http".toList, "https".toList, "ws".toList, "wss".toList, "ftp".toList].contains scheme
    then .special
  else .other

def defaultPort? (scheme : Text) : Option Nat :=
  if scheme = "http".toList || scheme = "ws".toList then some 80
  else if scheme = "https".toList || scheme = "wss".toList then some 443
  else if scheme = "ftp".toList then some 21
  else none

/-- The query and the fragment at the end of a URL, both escaped. -/
def readEnd (kind : SchemeKind) (t : Text) : Option Text × Option Text :=
  let set := if kind.isSpecial then EscapeSet.specialQuery else EscapeSet.query
  let fragment (t : Text) : Option Text :=
    match t with
    | '#' :: rest => some (escape EscapeSet.fragment rest)
    | _ => none
  match t with
  | '?' :: rest => (some (escape set (rest.takeWhile (· ≠ '#'))), fragment (rest.dropWhile (· ≠ '#')))
  | _ => (none, fragment t)

def isPathEnd (c : Char) : Bool := c = '?' || c = '#'

/-- The URL of a scheme and authority and the text that follows them. -/
def withPath (scheme : Text) (kind : SchemeKind) (authority : Option Authority)
    (readPath : Text → Text) (t : Text) : Url :=
  let (query, fragment) := readEnd kind (t.dropWhile (!isPathEnd ·))
  ⟨scheme, authority, readPath (t.takeWhile (!isPathEnd ·)), query, fragment⟩

def isAuthorityEnd (kind : SchemeKind) (c : Char) : Bool :=
  c = '/' || c = '?' || c = '#' || (kind.isSpecial && c = '\\')

/-- User information before its `@`, escaped. An empty password loses its colon. -/
def escapeUserinfo (t : Text) : Text :=
  match Text.splitFirst? ':' t with
  | none => escape EscapeSet.userinfo t
  | some (name, []) => escape EscapeSet.userinfo name
  | some (name, password) =>
    escape EscapeSet.userinfo name ++ ':' :: escape EscapeSet.userinfo password

/-- The length of a host: to the first colon outside of brackets. -/
def hostLength : Bool → Text → Nat
  | _, [] => 0
  | bracket, c :: rest =>
    if c = ':' && !bracket then 0
    else 1 + hostLength (if c = '[' then true else if c = ']' then false else bracket) rest

/-- The value of the digits of a port; none where there are no digits. -/
def portValue? (digits : Text) : Except UrlError (Option Nat) :=
  if !digits.all Char.isDigit then .error .invalidPort
  else if digits.isEmpty then .ok none
  else if Text.digitsValue digits < 0x10000 then .ok (some (Text.digitsValue digits))
  else .error .invalidPort

/-- A host and a port, and what follows them. The text before the end of the authority is
given without user information. -/
def readHostPort (scheme : Text) (kind : SchemeKind) (t rest : Text) :
    Except UrlError (Host × Option Nat × Text) :=
  let length := hostLength false t
  let written := t.take length
  match if kind.isSpecial then
      (if written.isEmpty then .error .emptyHost else specialHost written) else plainHost written with
  | .error error => .error error
  | .ok host =>
    match t.drop length with
    | ':' :: port =>
      if written.isEmpty then .error .emptyHost
      else
        let digits := port.takeWhile (· ≠ '\\')
        match portValue? digits with
        | .error error => .error error
        | .ok value =>
          .ok (host, value.filter (some · ≠ defaultPort? scheme), port.drop digits.length ++ rest)
    | _ => .ok (host, none, rest)

/-- The URL whose authority starts here. -/
def readAuthority (scheme : Text) (kind : SchemeKind) (t : Text) : Except UrlError Url :=
  let authority := t.takeWhile (!isAuthorityEnd kind ·)
  let rest := t.dropWhile (!isAuthorityEnd kind ·)
  match Text.splitLast? '@' authority with
  | none =>
    match readHostPort scheme kind authority rest with
    | .error error => .error error
    | .ok (host, port, rest) => .ok (withPath scheme kind (some ⟨[], host, port⟩) (readPath kind) rest)
  | some (userinfo, hostPort) =>
    if userinfo.isEmpty && hostPort.isEmpty && !rest.isEmpty then .error .emptyHost
    else
      match readHostPort scheme kind hostPort rest with
      | .error error => .error error
      | .ok (host, port, rest) =>
        let userinfo := escapeUserinfo userinfo
        if host = .empty && !userinfo.isEmpty then .error .emptyHost
        else .ok (withPath scheme kind (some ⟨userinfo, host, port⟩) (readPath kind) rest)

/-- The host of a file, where `localhost` is no host. -/
def fileHost (t : Text) : Except UrlError Host :=
  if t.isEmpty then .ok .empty
  else (specialHost t).map fun host => if host = .name "localhost".toList then .empty else host

/-- Whether the path starts with a drive letter, which then takes the place of the host. -/
def startsWithDrive (t : Text) : Bool :=
  match t.takeWhile (!isPathEnd ·) with
  | '/' :: rest => isDriveLetter (rest.takeWhile (!isPathSlash .file ·))
  | '\\' :: rest => isDriveLetter (rest.takeWhile (!isPathSlash .file ·))
  | _ => false

def readFile (scheme : Text) (t : Text) : Except UrlError Url :=
  let build (host : Host) (t : Text) : Url :=
    withPath scheme .file (some ⟨[], host, none⟩) (readPath .file) t
  match t with
  | a :: b :: rest =>
    if isPathSlash .file a && isPathSlash .file b then
      let written := rest.takeWhile (!isAuthorityEnd .file ·)
      if isDriveLetter written then .ok (build .empty rest)
      else
        let rest := rest.dropWhile (!isAuthorityEnd .file ·)
        (fileHost written).map fun host => build (if startsWithDrive rest then .empty else host) rest
    else .ok (build .empty t)
  | _ => .ok (build .empty t)

/-- The URL of a scheme that is not special. -/
def readOther (scheme : Text) (t : Text) : Except UrlError Url :=
  match t with
  | '/' :: '/' :: rest => readAuthority scheme .other rest
  | '/' :: _ => .ok (withPath scheme .other none (readPath .other) t)
  | _ => .ok (withPath scheme .other none (escape EscapeSet.controls) t)

def ofText (t : Text) : Except UrlError Url :=
  match readScheme? (cleanInput t) with
  | none => .error .relativeWithoutBase
  | some (scheme, rest) =>
    match kindOf scheme with
    | .file => readFile scheme rest
    | .special => readAuthority scheme .special (rest.dropWhile (isPathSlash .special))
    | .other => readOther scheme rest

end HostRouting.Url
