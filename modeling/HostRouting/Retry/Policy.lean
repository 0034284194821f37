import HostRouting.Retry.Backoff

/-!
# Retries

A call is a function on a state that succeeds or fails. It is made again as long as it
fails in a way that may pass and attempts are left; the last outcome is returned
unchanged, with the state after the last call. The number of attempts is at least one,
and exactly one when retries are switched off. The waiting between two calls is left out:
a run is the sequence of its calls.
-/
namespace HostRouting

structure RetryPolicy where
  maxAttempts : UInt32
  backoff : Backoff
  one_le_maxAttempts : 1 ≤ maxAttempts

/-- The end of a run: the calls as the loop has counted them, the outcome of the last one, and the
state after it. -/
structure RetryEnd (ε α σ : Type) where
  counted : UInt32
  outcome : Except ε α
  state : σ

namespace RetryPolicy

variable {ε α σ : Type}

def ofConfig (c : RetryConfig) : RetryPolicy :=
  if h : c.enabled ∧ 1 ≤ c.maxAttempts then ⟨c.maxAttempts, .ofConfig c, h.2⟩
  else if c.enabled then ⟨1, .ofConfig c, by decide⟩
  else ⟨1, ⟨0, 0⟩, by decide⟩

theorem zero_lt_maxAttempts (p : RetryPolicy) : 0 < p.maxAttempts :=
  UInt32.lt_of_lt_of_le (by decide) p.one_le_maxAttempts

/-- Below another word there is room for one more. -/
theorem toNat_add_one_of_lt {a b : UInt32} (h : a < b) : (a + 1).toNat = a.toNat + 1 := by
  have hab : a.toNat < b.toNat := UInt32.lt_iff_toNat_lt.mp h
  have hb : b.toNat < UInt32.size := b.toNat_lt_size
  rw [UInt32.toNat_add]
  exact Nat.mod_eq_of_lt (Nat.lt_of_le_of_lt hab hb)

/-- The loop when it has made some calls, which it counts in a word. It makes the next one, and
goes on after a failure that may pass as long as the count is below the bound. -/
def loop (p : RetryPolicy) (isRetryable : ε → Bool) (call : σ → Except ε α × σ)
    (made : { n : UInt32 // n < p.maxAttempts }) (s : σ) : RetryEnd ε α σ :=
  match call s with
  | (.ok value, s) => ⟨made + 1, .ok value, s⟩
  | (.error error, s) =>
    if hnext : made + 1 < p.maxAttempts ∧ isRetryable error then
      p.loop isRetryable call ⟨made + 1, hnext.1⟩ s
    else ⟨made + 1, .error error, s⟩
termination_by p.maxAttempts.toNat - made.1.toNat
decreasing_by
  have hmade : made.1.toNat < p.maxAttempts.toNat := UInt32.lt_iff_toNat_lt.mp made.2
  rw [toNat_add_one_of_lt made.2]
  omega

def run (p : RetryPolicy) (isRetryable : ε → Bool) (call : σ → Except ε α × σ) (s : σ) :
    Except ε α × σ :=
  let last := p.loop isRetryable call ⟨0, p.zero_lt_maxAttempts⟩ s
  (last.outcome, last.state)

end RetryPolicy

/-- How one call of a rehearsed run ends. -/
inductive CallOutcome where
  | ok
  | retryable
  | permanent
  deriving DecidableEq, Repr

/-- A failure of a rehearsed run: the number of the call, and whether it may be repeated. -/
structure CallFailure where
  call : Nat
  retryable : Bool
  deriving DecidableEq, Repr

/-- A call whose outcome is read off a script; the state is the number of calls made. -/
def scriptedCall (script : Nat → CallOutcome) (made : Nat) : Except CallFailure Nat × Nat :=
  match script made with
  | .ok => (.ok (made + 1), made + 1)
  | .retryable => (.error ⟨made + 1, true⟩, made + 1)
  | .permanent => (.error ⟨made + 1, false⟩, made + 1)

/-- The run of a script under a policy, with the number of calls it made. -/
def RetryPolicy.rehearse (p : RetryPolicy) (script : Nat → CallOutcome) :
    Except CallFailure Nat × Nat :=
  p.run CallFailure.retryable (scriptedCall script) 0

end HostRouting
