import HostRouting.Config.Basic

/-!
# Backoff between attempts

The delay before retry number `n`, counted from one, is the base times two to the power
`n - 1`, never above the maximum. The arithmetic is that of 64-bit words which stop at
their largest value instead of wrapping. The jitter of up to a tenth that chance adds to
it is left out.
-/
namespace HostRouting

def maxWord : UInt64 := 0xFFFFFFFFFFFFFFFF

/-- The product, or the largest word where that does not hold it. -/
def saturatingMul (a b : UInt64) : UInt64 :=
  if a.toNat * b.toNat < UInt64.size then a * b else maxWord

/-- Two to a power, or the largest word where that does not hold it. -/
def saturatingPowTwo (n : UInt32) : UInt64 := if n < 64 then 1 <<< n.toUInt64 else maxWord

structure Backoff where
  baseMs : UInt64
  maxMs : UInt64
  deriving DecidableEq, Repr

def Backoff.ofConfig (c : RetryConfig) : Backoff := ⟨c.baseDelayMs, c.maxDelayMs⟩

def Backoff.delayMs (b : Backoff) (attempt : UInt32) : UInt64 :=
  if attempt = 0 then 0 else min (saturatingMul b.baseMs (saturatingPowTwo (attempt - 1))) b.maxMs

end HostRouting
