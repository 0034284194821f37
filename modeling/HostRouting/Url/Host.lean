import HostRouting.Url.Basic
import HostRouting.Url.Domain

/-!
# Hosts of URLs

The host of a special scheme is an IPv6 address in brackets or a domain name; a domain
name whose last label is a number is an IPv4 address, whose parts may be decimal, octal
or hexadecimal, the last of them filling all bytes that are left. The host of another
scheme is taken as it is, with controls and characters beyond ASCII escaped.
-/
namespace HostRouting.Url

/-- A part of an IPv4 address. The outer option is none for what is no number, the inner
one for a number beyond 32 bits. -/
def ipv4Part? (t : Text) : Option (Option Nat) :=
  let fit (n : Nat) : Option Nat := if n < 0x100000000 then some n else none
  match t with
  | [] => none
  | '0' :: 'x' :: digits => if digits.isEmpty then some (some 0) else (Text.inBase? 16 digits).map fit
  | '0' :: 'X' :: digits => if digits.isEmpty then some (some 0) else (Text.inBase? 16 digits).map fit
  | '0' :: d :: digits => (Text.inBase? 8 (d :: digits)).map fit
  | digits => (Text.inBase? 10 digits).map fit

/-- The labels of a domain, an empty one at the end left out. -/
def domainLabels (domain : Text) : List Text :=
  let labels := domain.splitOn '.'
  if labels.getLast? = some [] && 1 < labels.length then labels.dropLast else labels

def endsInNumber (domain : Text) : Bool :=
  match (domainLabels domain).getLast? with
  | some last => (!last.isEmpty && last.all Char.isDigit) || (ipv4Part? last).isSome
  | none => false

/-- The address of leading octets and a last part. -/
def joinIpv4? (octets : List Nat) (last : Nat) : Option Nat :=
  if octets.all (· < 256) && last < Nat.pow 256 (4 - octets.length) then
    some (octets.foldl (256 * · + ·) 0 * Nat.pow 256 (4 - octets.length) + last)
  else none

def ipv4Host? (domain : Text) : Option Nat :=
  let labels := domainLabels domain
  if 4 < labels.length then none
  else
    match labels.mapM fun label => (ipv4Part? label).bind id with
    | none => none
    | some parts =>
      match parts.reverse with
      | [] => none
      | last :: octets => joinIpv4? octets.reverse last

/-- An address in brackets, if the text starts like one. -/
def bracketed? (t : Text) : Option (Except UrlError Host) :=
  match t with
  | '[' :: rest =>
    match [']'].isSuffixOf? rest with
    | some inner => some (((Net.ipv6? inner).map Host.ipv6).elim (.error .invalidIpv6) .ok)
    | none => some (.error .invalidIpv6)
  | _ => none

def specialHost (t : Text) : Except UrlError Host :=
  (bracketed? t).getD <|
    match domainToAscii? (Text.ofUtf8 (unescape t)) with
    | none => .error .invalidDomain
    | some [] => .error .emptyHost
    | some domain =>
      if endsInNumber domain then
        ((ipv4Host? domain).map Host.ipv4).elim (.error .invalidIpv4) .ok
      else .ok (.name domain)

def isForbiddenHostChar (c : Char) : Bool := "\x00\t\n\r #/:<>?@[\\]^|".toList.contains c

def plainHost (t : Text) : Except UrlError Host :=
  (bracketed? t).getD <|
    if t.any isForbiddenHostChar then .error .invalidHostCharacter
    else .ok (.name (escape EscapeSet.controls t))

end HostRouting.Url
