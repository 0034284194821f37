import HostRouting.Text.Basic

/-!
# Numbers written in digits

The value of decimal and hexadecimal digits, of either case, and the digits of a
value. The readers take a whole text: it must be nonempty and hold nothing else.
-/
namespace HostRouting.Text

/-- The number that a list of decimal digits denotes. -/
def digitsValue (digits : Text) : Nat :=
  digits.foldl (fun n c => 10 * n + (c.toNat - '0'.toNat)) 0

def hexDigit? (c : Char) : Option Nat :=
  if '0' ≤ c ∧ c ≤ '9' then some (c.toNat - '0'.toNat)
  else if 'a' ≤ c ∧ c ≤ 'f' then some (c.toNat - 'a'.toNat + 10)
  else if 'A' ≤ c ∧ c ≤ 'F' then some (c.toNat - 'A'.toNat + 10)
  else none

/-- The last hexadecimal digit of a number, in lower case. -/
def lowerHexDigit (n : Nat) : Char := Nat.digitChar (n % 16)

/-- The last hexadecimal digit of a number, in upper case. -/
def upperHexDigit (n : Nat) : Char := (lowerHexDigit n).toUpper

def decimal? (t : Text) : Option Nat :=
  if t.isEmpty || !t.all Char.isDigit then none else some (digitsValue t)

/-- The value of digits in a base up to sixteen. -/
def inBase? (base : Nat) (t : Text) : Option Nat :=
  if t.isEmpty then none
  else t.foldl (fun n c => do
    let digit ← (hexDigit? c).filter (· < base)
    return base * (← n) + digit) (some 0)

def hexadecimal? (t : Text) : Option Nat := inBase? 16 t

/-- The text before and after the first `c`. -/
def splitFirst? (c : Char) (t : Text) : Option (Text × Text) :=
  match t.dropWhile (· ≠ c) with
  | [] => none
  | _ :: after => some (t.takeWhile (· ≠ c), after)

/-- The text before and after the last `c`. -/
def splitLast? (c : Char) (t : Text) : Option (Text × Text) :=
  (splitFirst? c t.reverse).map fun (after, before) => (before.reverse, after.reverse)

end HostRouting.Text
