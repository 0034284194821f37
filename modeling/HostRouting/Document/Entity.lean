import HostRouting.Document.Basic

/-!
# Hosts and the lines that open their blocks

A host owns the blocks generated for it. A policy derives from the host the tag that
names these blocks; under the default policy hosts with one first label share a tag,
under the strict one the tag is the whole host with dashes for dots. A line opens a
block of a host when it holds the host's rule marker, is one of its header comments,
or begins with a generated name of its tag.
-/
namespace HostRouting

/-- A failure of a document edit. -/
inductive EditError where
  | emptyHost
  | missingSection (name : Text)
  deriving DecidableEq, Repr

def EditError.message : EditError → Text
  | .emptyHost => "Hostname is required".toList
  | .missingSection name =>
    "Invalid config: '".toList ++ name ++ ":' section not found.".toList

/-- A host name as it was given, trimmed; it is never empty. -/
structure Entity where
  host : Text
  host_ne_nil : host ≠ []
  trim_host : Text.trim host = host
  deriving DecidableEq

namespace Entity

def ofText (t : Text) : Except EditError Entity :=
  if h : Text.trim t = [] then .error .emptyHost else .ok ⟨Text.trim t, h, Text.trim_trim t⟩

/-- The text before the first dot, all of it when there is none. -/
def firstLabel (e : Entity) : Text := e.host.takeWhile (· ≠ '.')

/-- The part of a router's rule that selects this host. -/
def marker (e : Entity) : Text := "Host(`".toList ++ e.host ++ "`)".toList

end Entity

inductive MatchPolicy where
  | firstLabel
  | fullHost
  deriving DecidableEq, Repr

namespace MatchPolicy

def ofStrict (strict : Bool) : MatchPolicy := if strict then .fullHost else .firstLabel

def tag (policy : MatchPolicy) (e : Entity) : Text :=
  match policy with
  | .firstLabel => e.firstLabel
  | .fullHost => Text.replaceChar '.' '-' e.host

end MatchPolicy

/-- What a generated name adds to the tag. -/
inductive BlockKind where
  | backendRouter
  | frontendRouter
  | router
  | service
  deriving DecidableEq, Repr

namespace BlockKind

def all : List BlockKind := [.backendRouter, .frontendRouter, .router, .service]

def ending : BlockKind → Text
  | .backendRouter => "-backend-router".toList
  | .frontendRouter => "-frontend-router".toList
  | .router => "-router".toList
  | .service => "-service".toList

def name (kind : BlockKind) (tag : Text) : Text := tag ++ kind.ending

/-- The comment written above a block, up to the host. -/
def commentStart : BlockKind → Text
  | .backendRouter => "# Backend API routes for ".toList
  | .frontendRouter => "# Frontend routes for ".toList
  | .router => "# Routes for ".toList
  | .service => "# Service for ".toList

def comment (kind : BlockKind) (e : Entity) : Text := kind.commentStart ++ e.host

end BlockKind

/-- The line is, after trimming, a header comment of the host. -/
def isHeaderComment (e : Entity) (line : Text) : Bool :=
  BlockKind.all.any fun kind => Text.trim line == kind.comment e

/-- The line begins, after trimming, with a generated name of the tag. -/
def isGeneratedName (tag : Text) (line : Text) : Bool :=
  BlockKind.all.any fun kind => (kind.name tag).isPrefixOf (Text.trim line)

/-- The line opens a block owned by the host. -/
def MatchPolicy.startsBlock (policy : MatchPolicy) (e : Entity) (line : Text) : Bool :=
  Text.occursIn e.marker line || isHeaderComment e line || isGeneratedName (policy.tag e) line

end HostRouting
