import HostRouting.Json.Bounded
import HostRouting.Toml.Basic

/-!
# TOML numbers, truth values and dates

A scalar without quotes is a word of letters, digits and a few signs, and the whole word
is the scalar. Digits may be grouped by single underscores. Integers are those of 64
bits; a float above the largest one is refused. A date is followed by a time after the
letter `T` or a space; the days of the months are checked, and a minute may have a
second of number 60.
-/
namespace HostRouting.Toml

open Text (decimal? inBase? splitFirst?)

/-- Digits without the underscores that group them. -/
def ungroup? (isDigit : Char → Bool) (t : Text) : Option Text :=
  let groups := t.splitOn '_'
  if groups.all fun g => !g.isEmpty && g.all isDigit then some groups.flatten else none

/-- A sign, if there is one, and the rest. -/
def readSign : Text → Bool × Text
  | '+' :: rest => (false, rest)
  | '-' :: rest => (true, rest)
  | t => (false, t)

/-- The digits of a whole part, which has no leading zero. -/
def wholeDigits? (t : Text) : Option Text :=
  (ungroup? Char.isDigit t).filter fun digits => digits.length = 1 || digits.head? != some '0'

def fitsWord (n : Int) : Bool := -0x8000000000000000 ≤ n && n < 0x8000000000000000

/-- An integer in a base other than ten, without its base sign. -/
def basedInteger? (base : Nat) (t : Text) : Option Int :=
  ((ungroup? (fun c => (Text.hexDigit? c).any (· < base)) t).bind (inBase? base)).map Int.ofNat

def decimalInteger? (t : Text) : Option Int :=
  let (negative, digits) := readSign t
  (wholeDigits? digits).map fun digits =>
    if negative then -(Text.digitsValue digits : Int) else Text.digitsValue digits

def integer? (t : Text) : Option Int :=
  (match t with
    | '0' :: 'x' :: rest => basedInteger? 16 rest
    | '0' :: 'o' :: rest => basedInteger? 8 rest
    | '0' :: 'b' :: rest => basedInteger? 2 rest
    | _ => decimalInteger? t).filter fitsWord

/-- The exponent of a float, after its letter. -/
def exponent? (t : Text) : Option (Bool × Text) :=
  let (negative, digits) := readSign t
  (ungroup? Char.isDigit digits).map fun digits => (negative, digits)

def isExponentSign (c : Char) : Bool := c = 'e' || c = 'E'

/-- A decimal number with a fraction or an exponent or both. -/
def decimalFloat? (t : Text) : Option JsonNumber :=
  let (negative, t) := readSign t
  let mantissa := t.takeWhile fun c => !isExponentSign c
  let (whole, fraction) :=
    match splitFirst? '.' mantissa with
    | some (whole, fraction) => (whole, some fraction)
    | none => (mantissa, none)
  let exponent := (t.dropWhile fun c => !isExponentSign c).tail?
  if fraction.isNone && exponent.isNone then none
  else do
    let whole ← wholeDigits? whole
    let fraction ← fraction.mapM (ungroup? Char.isDigit)
    let exponent ← exponent.mapM exponent?
    return ⟨negative, whole, fraction, exponent⟩

/-- Whether a word is a float: a number, infinite, or no number. -/
def isFloat (t : Text) : Bool :=
  (decimalFloat? t).any (fun n => n.negative || n.isFinite) ||
    (readSign t).2 = "inf".toList || (readSign t).2 = "nan".toList

/-- A number of two digits in a range. -/
def twoDigits? (low high : Nat) (a b : Char) : Option Nat :=
  (decimal? [a, b]).filter fun n => low ≤ n && n ≤ high

def isLeapYear (year : Nat) : Bool := year % 4 = 0 && (year % 100 ≠ 0 || year % 400 = 0)

def daysOfMonth (year month : Nat) : Nat :=
  if month = 2 then (if isLeapYear year then 29 else 28)
  else if [4, 6, 9, 11].contains month then 30
  else 31

/-- What follows a date. -/
def afterDate? : Text → Option Text
  | y₁ :: y₂ :: y₃ :: y₄ :: '-' :: m₁ :: m₂ :: '-' :: d₁ :: d₂ :: rest => do
    let year ← decimal? [y₁, y₂, y₃, y₄]
    let month ← twoDigits? 1 12 m₁ m₂
    let _ ← twoDigits? 1 (daysOfMonth year month) d₁ d₂
    return rest
  | _ => none

/-- What follows the fraction of a second. -/
def afterFraction? : Text → Option Text
  | '.' :: rest =>
    if (rest.takeWhile Char.isDigit).isEmpty then none else some (rest.dropWhile Char.isDigit)
  | t => some t

/-- What follows a time. -/
def afterTime? : Text → Option Text
  | h₁ :: h₂ :: ':' :: m₁ :: m₂ :: ':' :: s₁ :: s₂ :: rest => do
    let _ ← twoDigits? 0 23 h₁ h₂
    let _ ← twoDigits? 0 59 m₁ m₂
    let _ ← twoDigits? 0 60 s₁ s₂
    afterFraction? rest
  | _ => none

/-- Whether a text is the offset of a time zone. -/
def isOffset : Text → Bool
  | ['Z'] => true
  | ['z'] => true
  | [sign, h₁, h₂, ':', m₁, m₂] =>
    (sign = '+' || sign = '-') && (twoDigits? 0 23 h₁ h₂).isSome && (twoDigits? 0 59 m₁ m₂).isSome
  | _ => false

/-- Whether a text is a time, with or without an offset. -/
def isTimeOfDate (t : Text) : Bool :=
  (afterTime? t).any fun rest => rest.isEmpty || isOffset rest

def isDateTime (t : Text) : Bool :=
  afterTime? t = some [] ||
    (afterDate? t).any fun
      | [] => true
      | c :: rest => (c = 'T' || c = 't') && isTimeOfDate rest

def isWordChar (c : Char) : Bool := c.isAlphanum || "+-_.:".toList.contains c

/-- The scalar that a word is. -/
def ofWord? (t : Text) : Option Toml :=
  if t = "true".toList then some (.bool true)
  else if t = "false".toList then some (.bool false)
  else if isDateTime t then some (.dateTime t)
  else if isFloat t then some (.float t)
  else (integer? t).map .integer

/-- A scalar and what follows it. A date takes a time after a space with it. -/
def readScalar (t : Text) : Option (Toml × Text) :=
  let word := t.takeWhile isWordChar
  let rest := t.dropWhile isWordChar
  match afterDate? word, rest with
  | some [], ' ' :: more =>
    let time := more.takeWhile isWordChar
    if time.isEmpty then some (.dateTime word, rest)
    else if isTimeOfDate time then
      some (.dateTime (word ++ ' ' :: time), more.dropWhile isWordChar)
    else none
  | _, _ => (ofWord? word).map fun value => (value, rest)

end HostRouting.Toml
