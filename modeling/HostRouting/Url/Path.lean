import HostRouting.Url.Basic

/-!
# Paths of URLs

A path is read as segments. A segment of one dot is dropped, one of two dots drops the
segment before it as well; at the end of the path both leave an empty segment, so that
the path keeps its final slash. Dots may be escaped. File paths keep a drive letter at
their start, and lose empty segments there.
-/
namespace HostRouting.Url

inductive SchemeKind where
  | file
  | special
  | other
  deriving DecidableEq, Repr

def SchemeKind.isSpecial : SchemeKind → Bool
  | .other => false
  | _ => true

/-- The text with escaped dots as dots. -/
def unescapeDots : Text → Text
  | [] => []
  | '%' :: '2' :: e :: rest =>
    if e = 'e' || e = 'E' then '.' :: unescapeDots rest
    else '%' :: '2' :: unescapeDots (e :: rest)
  | c :: rest => c :: unescapeDots rest

def isSingleDot (segment : Text) : Bool := unescapeDots segment = ['.']
def isDoubleDot (segment : Text) : Bool := unescapeDots segment = ['.', '.']

/-- A letter and a colon or a bar. -/
def isDriveLetter : Text → Bool
  | [c, d] => c.isAlpha && (d = ':' || d = '|')
  | _ => false

def isNormalDriveLetter : Text → Bool
  | [c, ':'] => c.isAlpha
  | _ => false

/-- The segments, last one first, without the last one. -/
def shorten (kind : SchemeKind) : List Text → List Text
  | [] => []
  | [only] => if kind = .file && isNormalDriveLetter only then [only] else []
  | _ :: rest => rest

/-- The pieces between slashes as segments; `done` holds those already read, last one first. -/
def segments (kind : SchemeKind) : List Text → List Text → List Text
  | done, [] => done.reverse
  | done, piece :: rest =>
    if isDoubleDot piece then
      segments kind (if rest.isEmpty then [] :: shorten kind done else shorten kind done) rest
    else if isSingleDot piece then
      segments kind (if rest.isEmpty then [] :: done else done) rest
    else if kind = .file && done.isEmpty && isDriveLetter piece then
      segments kind ((piece.take 1 ++ [':']) :: done) rest
    else segments kind (escape EscapeSet.path piece :: done) rest

/-- The pieces with a drive letter at their start cut off from what follows it. -/
def splitDrive : List Text → List Text
  | (c :: ':' :: d :: tail) :: rest =>
    if c.isAlpha then [c, ':'] :: (d :: tail) :: rest else (c :: ':' :: d :: tail) :: rest
  | pieces => pieces

/-- The path of segments, each after a slash. -/
def ofSegments (segments : List Text) : Text := segments.flatMap ('/' :: ·)

/-- The path without empty segments at its start. -/
def dropLeadingEmpty (segments : List Text) : List Text :=
  match segments.dropWhile List.isEmpty with
  | [] => [[]]
  | rest => rest

def isPathSlash (kind : SchemeKind) (c : Char) : Bool := c = '/' || (kind.isSpecial && c = '\\')

/-- The path that follows an authority or a single slash, up to the query or fragment. -/
def readPath (kind : SchemeKind) (t : Text) : Text :=
  let body :=
    match t with
    | c :: rest => if isPathSlash kind c then rest else t
    | [] => t
  let pieces := body.splitOnP (isPathSlash kind)
  match kind with
  | .file => ofSegments (dropLeadingEmpty (segments kind [] (splitDrive pieces)))
  | .special => ofSegments (segments kind [] pieces)
  | .other => if t.isEmpty then [] else ofSegments (segments kind [] pieces)

end HostRouting.Url
