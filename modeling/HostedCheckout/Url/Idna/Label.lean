import HostedCheckout.Url.Idna.Mapping
import HostedCheckout.Url.Idna.Normalization
import HostedCheckout.Url.Punycode

/-!
# Labels of domain names

A label is well formed when it is in composed form, does not begin with a mark,
and holds only characters that domain names may hold; the two invisible joiners
need a context.  If any label of a name runs from right to left, every label
must have a definite direction.
-/

namespace HostedCheckout.Idna

/-- How a character affects the direction of its label. -/
inductive Direction where
  | leftToRight
  | rightToLeft
  | arabicLetter
  | arabicNumber
  | europeanNumber
  | europeanSeparator
  | commonSeparator
  | europeanTerminator
  | otherNeutral
  | boundaryNeutral
  | nonspacingMark
  deriving DecidableEq

/-- The directional class of a character. -/
def direction (character : Char) : Direction :=
  if rightToLeft.contains character then .rightToLeft
  else if arabicLetters.contains character then .arabicLetter
  else if arabicNumbers.contains character then .arabicNumber
  else if europeanNumbers.contains character then .europeanNumber
  else if europeanSeparators.contains character then .europeanSeparator
  else if commonSeparators.contains character then .commonSeparator
  else if europeanTerminators.contains character then .europeanTerminator
  else if otherNeutrals.contains character then .otherNeutral
  else if boundaryNeutrals.contains character then .boundaryNeutral
  else if nonspacingMarks.contains character then .nonspacingMark
  else .leftToRight

/-- Classes that make a name run from right to left. -/
def Direction.turns : Direction → Bool
  | .rightToLeft | .arabicLetter | .arabicNumber => true
  | _ => false

/-- Classes that may stand in any label. -/
def Direction.isNeutral : Direction → Bool
  | .europeanNumber | .europeanSeparator | .commonSeparator | .europeanTerminator
  | .otherNeutral | .boundaryNeutral | .nonspacingMark => true
  | _ => false

/-- Whether the classes of a label give it a definite direction: the first one
decides it, the others agree, and the last one that is no mark closes it. -/
def hasDirection (classes : List Direction) : Bool :=
  match classes, (classes.reverse.dropWhile (· == .nonspacingMark)).head? with
  | [], _ => true
  | .leftToRight :: _, some last =>
      classes.all (fun held => held == .leftToRight || held.isNeutral)
        && (last == .leftToRight || last == .europeanNumber)
  | first :: _, some last =>
      (first == .rightToLeft || first == .arabicLetter)
        && classes.all (fun held => held.turns || held.isNeutral)
        && (last.turns || last == .europeanNumber)
        && !(classes.contains .europeanNumber && classes.contains .arabicNumber)
  | _ :: _, none => false

/-- The joiner that keeps letters apart. -/
def nonJoiner : Char := Char.ofNat 0x200C

/-- The joiner that draws letters together. -/
def joiner : Char := Char.ofNat 0x200D

/-- The combining class of marks that take a vowel away. -/
def viramaClass : Nat := 9

/-- Whether the letters around a place would join, marks aside. -/
def wouldJoin (before after : List Char) : Bool :=
  let beyond := fun text : List Char => (text.dropWhile joinsNone.contains).head?
  (beyond before).any (fun letter => joinsLeft.contains letter || joinsBoth.contains letter)
    && (beyond after).any (fun letter => joinsRight.contains letter || joinsBoth.contains letter)

/-- Whether every joiner stands after a vowel-taking mark, or keeps apart
letters that would join.  The text before is given in reverse. -/
def joinersFit (before : List Char) : List Char → Bool
  | [] => true
  | character :: rest =>
      let afterVirama := before.head?.any (fun mark => combiningClass mark == viramaClass)
      (if character = nonJoiner then afterVirama || wouldJoin before rest
       else if character = joiner then afterVirama
       else true)
        && joinersFit (character :: before) rest

/-- A character that a label may hold as it stands. -/
def isAdmissible (character : Char) : Bool :=
  character.toNat < 0x80 && !character.isUpper
    || 0x80 ≤ character.toNat && !disallowed.contains character
        && !ignored.contains character && (replacement? character).isNone

/-- Whether a label is well formed, its direction aside. -/
def isWellFormed (label : List Char) : Bool :=
  label.all (·.toNat < 0x80)
    || (label.all isAdmissible
        && !(label.head?.any combiningMarks.contains)
        && normalize label == label
        && joinersFit [] label)

end HostedCheckout.Idna
