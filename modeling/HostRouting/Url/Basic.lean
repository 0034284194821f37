import HostRouting.Net.Address
import HostRouting.Url.Form

/-!
# URLs

A URL in parts, each in the form in which it is written, and its text. A URL without an
authority whose path starts with two slashes is written with `/.` before the path, so
that reading does not take the path for an authority.
-/
namespace HostRouting

/-- Why a text is no URL. -/
inductive UrlError where
  | relativeWithoutBase
  | emptyHost
  | invalidPort
  | invalidIpv4
  | invalidIpv6
  | invalidDomain
  | invalidHostCharacter
  deriving DecidableEq, Repr

def UrlError.message : UrlError → Text
  | .relativeWithoutBase => "relative URL without a base".toList
  | .emptyHost => "empty host".toList
  | .invalidPort => "invalid port number".toList
  | .invalidIpv4 => "invalid IPv4 address".toList
  | .invalidIpv6 => "invalid IPv6 address".toList
  | .invalidDomain => "invalid international domain name".toList
  | .invalidHostCharacter => "invalid domain character".toList

namespace Url

inductive Host where
  | name (written : Text)
  | ipv4 (address : Nat)
  | ipv6 (groups : List Nat)
  deriving DecidableEq, Repr

def Host.empty : Host := .name []

def Host.toText : Host → Text
  | .name written => written
  | .ipv4 address => Net.printIpv4 address
  | .ipv6 groups => '[' :: Net.printIpv6 groups ++ [']']

/-- User information is the escaped name, with a colon and the password if there is one. -/
structure Authority where
  userinfo : Text
  host : Host
  port : Option Nat
  deriving DecidableEq, Repr

/-- The host with its port, where that is not the default one. -/
def Authority.hostPort (a : Authority) : Text :=
  a.host.toText ++
    match a.port with
    | some port => ':' :: Text.ofNat port
    | none => []

def Authority.toText (a : Authority) : Text :=
  (if a.userinfo.isEmpty then [] else a.userinfo ++ ['@']) ++ a.hostPort

end Url

structure Url where
  scheme : Text
  authority : Option Url.Authority
  path : Text
  query : Option Text
  fragment : Option Text
  deriving DecidableEq, Repr

namespace Url

/-- The query with its question mark. -/
def queryPart (u : Url) : Text :=
  match u.query with
  | some q => '?' :: q
  | none => []

def fragmentPart (u : Url) : Text :=
  match u.fragment with
  | some f => '#' :: f
  | none => []

def authorityPart (u : Url) : Text :=
  match u.authority with
  | some a => '/' :: '/' :: a.toText
  | none => if "//".toList.isPrefixOf u.path then ['/', '.'] else []

def toText (u : Url) : Text :=
  u.scheme ++ ':' :: u.authorityPart ++ u.path ++ u.queryPart ++ u.fragmentPart

/-- The URL with one more pair in its query. -/
def addPair (u : Url) (name value : Text) : Url :=
  { u with query := some (appendPair u.query name value) }

end Url
end HostRouting
