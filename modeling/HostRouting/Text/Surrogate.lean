/-!
# Surrogates

The code units with which 16-bit text writes the characters beyond the first plane: a
high surrogate and then a low one. Alone neither stands for a character.
-/
namespace HostRouting.Text

def isHighSurrogate (n : Nat) : Bool := 0xD800 ≤ n && n ≤ 0xDBFF

def isLowSurrogate (n : Nat) : Bool := 0xDC00 ≤ n && n ≤ 0xDFFF

/-- The character of a pair of surrogates. -/
def surrogatePair (high low : Nat) : Char :=
  Char.ofNat (0x10000 + (high - 0xD800) * 0x400 + (low - 0xDC00))

end HostRouting.Text
