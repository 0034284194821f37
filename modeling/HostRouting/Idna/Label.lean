import HostRouting.Idna.PropertyData
import HostRouting.Idna.Composition

/-!
# Rules for labels

What a label may not be, whatever its characters: it does not start with a combining
mark, joiners stand only where they have an effect, and where right-to-left text occurs
in the domain, a label keeps to one direction, by RFC 5892 and RFC 5893.
-/
namespace HostRouting.Idna

def inRunsOf (runs : List Nat) (c : Char) : Bool := Text.inRuns runs c.toNat

def startsWithMark (label : Text) : Bool := label.head?.any (inRunsOf markRuns)

def zeroWidthNonJoiner : Char := '\u200c'
def zeroWidthJoiner : Char := '\u200d'

/-- The combining class of a sign that takes the vowel from the letter before it. -/
def viramaClass : Nat := 9

def isVirama (c : Char) : Bool := combiningClass c.toNat = viramaClass

/-- Whether the letters around a place join there, with transparent characters between. The
text before is given last character first. -/
def joins (before after : Text) : Bool :=
  let left := (before.dropWhile (inRunsOf transparentRuns)).head?
  let right := (after.dropWhile (inRunsOf transparentRuns)).head?
  left.any (fun c => inRunsOf leftJoiningRuns c || inRunsOf dualJoiningRuns c) &&
    right.any (fun c => inRunsOf rightJoiningRuns c || inRunsOf dualJoiningRuns c)

/-- Whether all joiners stand in places of effect. The text before is given last character
first. -/
def joinersAllowed (before : Text) : Text → Bool
  | [] => true
  | c :: rest =>
    (if c = zeroWidthJoiner then before.head?.any isVirama
      else if c = zeroWidthNonJoiner then before.head?.any isVirama || joins before rest
      else true) && joinersAllowed (c :: before) rest

/-- The bidirectional classes that rules speak of. -/
inductive BidiClass where
  | left
  | right
  | arabicLetter
  | arabicNumber
  | europeanNumber
  | europeanSeparator
  | commonSeparator
  | europeanTerminator
  | otherNeutral
  | boundaryNeutral
  | nonspacing
  deriving DecidableEq, Repr

namespace BidiClass

def runs : List (BidiClass × List Nat) :=
  [(right, rightToLeftRuns), (arabicLetter, arabicLetterRuns), (arabicNumber, arabicNumberRuns),
    (europeanNumber, europeanNumberRuns), (europeanSeparator, europeanSeparatorRuns),
    (commonSeparator, commonSeparatorRuns), (europeanTerminator, europeanTerminatorRuns),
    (otherNeutral, otherNeutralRuns), (boundaryNeutral, boundaryNeutralRuns),
    (nonspacing, nonspacingRuns)]

def of (c : Char) : BidiClass :=
  ((runs.find? fun entry => inRunsOf entry.2 c).map (·.1)).getD left

/-- Whether a character of the class makes its domain a right-to-left one. -/
def isRightToLeft : BidiClass → Bool
  | right => true
  | arabicLetter => true
  | arabicNumber => true
  | _ => false

/-- The classes that both directions admit. -/
def isNeutral : BidiClass → Bool
  | europeanNumber => true
  | europeanSeparator => true
  | commonSeparator => true
  | europeanTerminator => true
  | otherNeutral => true
  | boundaryNeutral => true
  | nonspacing => true
  | _ => false

end BidiClass

/-- The class of the last character that is no nonspacing mark. -/
def lastClass? (classes : List BidiClass) : Option BidiClass :=
  (classes.reverse.dropWhile (· = .nonspacing)).head?

/-- A label that runs from right to left. -/
def isRightToLeftLabel (classes : List BidiClass) : Bool :=
  classes.all (fun c => c.isRightToLeft || c.isNeutral) &&
    (lastClass? classes).any
      (fun c => [.right, .arabicLetter, .europeanNumber, .arabicNumber].contains c) &&
    !(classes.contains .europeanNumber && classes.contains .arabicNumber)

/-- A label that runs from left to right. -/
def isLeftToRightLabel (classes : List BidiClass) : Bool :=
  classes.all (fun c => c = .left || c.isNeutral) &&
    (lastClass? classes).any (fun c => c = .left || c = .europeanNumber)

/-- Whether a label keeps to one direction; its first character says to which. -/
def keepsDirection (label : Text) : Bool :=
  match label.map BidiClass.of with
  | [] => true
  | first :: rest =>
    if first = .left then isLeftToRightLabel (first :: rest)
    else (first = .right || first = .arabicLetter) && isRightToLeftLabel (first :: rest)

def hasRightToLeft (t : Text) : Bool := t.any fun c => (BidiClass.of c).isRightToLeft

/-- Whether a label is well formed apart from its direction. -/
def isWellFormed (label : Text) : Bool := !startsWithMark label && joinersAllowed [] label

end HostRouting.Idna
