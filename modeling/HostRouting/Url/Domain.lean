import HostRouting.Idna.Domain

/-!
# Domain names in URLs

A domain name in a URL is in ASCII and lower case, and has none of the characters that
delimit the parts of a URL, controls or spaces. What mapping makes of a name counts, so
the check comes after it.
-/
namespace HostRouting.Url

def isForbiddenDomainChar (c : Char) : Bool :=
  c.toNat ≤ 0x20 || c.toNat = 0x7F || "#/:<>?@[\\]^|%".toList.contains c

def domainToAscii? (t : Text) : Option Text :=
  (Idna.toAscii? t).filter fun domain => !domain.any isForbiddenDomainChar

end HostRouting.Url
