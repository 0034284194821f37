import HostRouting.Text.Digits

/-!
# Internet addresses and socket addresses

The strict written forms: four decimal octets without leading zeros, and up to eight
hexadecimal groups in which one `::` stands for at least one group of zeros and four
octets may stand for the last two groups. A socket address is an address and a port,
with the long form in brackets and an optional numeric scope.
-/
namespace HostRouting.Net

open Text (decimal? hexadecimal? splitLast?)

/-- A decimal octet without leading zeros. -/
def octet? (t : Text) : Option Nat :=
  if t.length ≤ 3 && (t.length = 1 || t.head? != some '0') then
    (decimal? t).filter (· < 256)
  else none

/-- The number that four octets make. -/
def ofOctets (a b c d : Nat) : Nat := ((a * 256 + b) * 256 + c) * 256 + d

def ipv4? (t : Text) : Option Nat :=
  match t.splitOn '.' with
  | [a, b, c, d] =>
    match octet? a, octet? b, octet? c, octet? d with
    | some a, some b, some c, some d => some (ofOctets a b c d)
    | _, _, _, _ => none
  | _ => none

/-- One to four hexadecimal digits. -/
def group? (t : Text) : Option Nat := if t.length ≤ 4 then hexadecimal? t else none

/-- Groups between colons; the last may be an address of four octets, which makes two. -/
def groups? : List Text → Option (List Nat)
  | [] => some []
  | [last] =>
    match ipv4? last with
    | some n => some [n / 0x10000, n % 0x10000]
    | none => (group? last).map ([·])
  | g :: rest =>
    match group? g, groups? rest with
    | some n, some ns => some (n :: ns)
    | _, _ => none

/-- The groups of a possibly empty side of `::`. -/
def side? (t : Text) : Option (List Nat) := if t.isEmpty then some [] else groups? (t.splitOn ':')

/-- The text before and after the first `::`. -/
def splitDoubleColon? : Text → Option (Text × Text)
  | ':' :: ':' :: rest => some ([], rest)
  | c :: rest => (splitDoubleColon? rest).map fun (a, b) => (c :: a, b)
  | [] => none

/-- The eight groups of an address. -/
def ipv6? (t : Text) : Option (List Nat) :=
  match splitDoubleColon? t with
  | none => (groups? (t.splitOn ':')).filter (·.length = 8)
  | some (before, after) =>
    if before.contains '.' then none
    else
      match side? before, side? after with
      | some head, some tail =>
        if head.length + tail.length ≤ 7 then
          some (head ++ List.replicate (8 - head.length - tail.length) 0 ++ tail)
        else none
      | _, _ => none

/-- A port in decimal digits, leading zeros allowed. -/
def port? (t : Text) : Option Nat := (decimal? t).filter (· < 0x10000)

/-- An address in groups, with an optional scope of decimal digits. -/
def isScoped (t : Text) : Bool :=
  match splitLast? '%' t with
  | none => (ipv6? t).isSome
  | some (address, scope) =>
    (ipv6? address).isSome && ((decimal? scope).filter (· < UInt32.size)).isSome

def isSocketAddress (t : Text) : Bool :=
  match splitLast? ':' t with
  | none => false
  | some (address, port) =>
    (port? port).isSome &&
      match address with
      | '[' :: rest =>
        match [']'].isSuffixOf? rest with
        | some inner => isScoped inner
        | none => false
      | _ => (ipv4? address).isSome

/-- The start and length of the first longest run of zeros of two or more groups. -/
def longestZeroRun (groups : List Nat) : Option (Nat × Nat) :=
  let lengthAt (i : Nat) := ((groups.drop i).takeWhile (· = 0)).length
  (List.range groups.length).foldl
    (fun best i =>
      if 2 ≤ lengthAt i ∧ (best.map (·.2)).getD 0 < lengthAt i then some (i, lengthAt i) else best)
    none

def printGroups (groups : List Nat) : Text :=
  [':'].intercalate (groups.map (Nat.toDigits 16))

/-- The shortest written form of eight groups. -/
def printIpv6 (groups : List Nat) : Text :=
  match longestZeroRun groups with
  | none => printGroups groups
  | some (start, length) =>
    printGroups (groups.take start) ++ [':', ':'] ++ printGroups (groups.drop (start + length))

def printIpv4 (n : Nat) : Text :=
  ['.'].intercalate
    ([n / 0x1000000, n / 0x10000 % 256, n / 0x100 % 256, n % 256].map Text.ofNat)

end HostRouting.Net
