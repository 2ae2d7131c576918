/-!
# Punycode

A label with characters outside ASCII is written in ASCII: its ASCII characters
first, then, after a hyphen, the insertions that restore the others in order of
code point.  Each insertion is a number with digits of varying weight, whose
thresholds adapt to the distances met so far.
-/

namespace HostedCheckout.Punycode

/-- The number of digits. -/
def base : Nat := 36

/-- The first character that is inserted. -/
def initialPoint : Nat := 128

/-- The threshold of the digit at a place, counted from one. -/
def threshold (bias place : Nat) : Nat :=
  let weight := base * place
  if weight ≤ bias + 1 then 1 else if bias + 26 ≤ weight then 26 else weight - bias

/-- Divide a distance until it is small; the bias grows with every step. -/
def damp : Nat → Nat → Nat → Nat
  | 0, _, bias => bias
  | steps + 1, distance, bias =>
      if 455 < distance then damp steps (distance / 35) (bias + base)
      else bias + 36 * distance / (distance + 38)

/-- The bias after an insertion. -/
def adapt (distance count : Nat) (first : Bool) : Nat :=
  let scaled := if first then distance / 700 else distance / 2
  damp 64 (scaled + scaled / count) 0

/-- A digit: `a` to `z`, then `0` to `9`. -/
def digit (value : Nat) : Char :=
  if value < 26 then Char.ofNat (97 + value) else Char.ofNat (22 + value)

/-- The value of a digit. -/
def digitValue? (character : Char) : Option Nat :=
  if 'a' ≤ character ∧ character ≤ 'z' then some (character.toNat - 97)
  else if 'A' ≤ character ∧ character ≤ 'Z' then some (character.toNat - 65)
  else if '0' ≤ character ∧ character ≤ '9' then some (character.toNat - 22)
  else none

/-- The digits of an insertion number. -/
def insertion (bias : Nat) : Nat → Nat → Nat → List Char
  | 0, _, _ => []
  | steps + 1, place, number =>
      let limit := threshold bias place
      if number < limit then [digit number]
      else digit (limit + (number - limit) % (base - limit))
        :: insertion bias steps (place + 1) ((number - limit) / (base - limit))

/-- What an encoder carries along. -/
structure Progress where
  distance : Nat
  bias : Nat
  handled : Nat
  written : List Char

/-- Write the insertions of one code point into a label. -/
def insertPoint (point basic : Nat) (label : List Char) (progress : Progress) : Progress :=
  label.foldl (fun state character =>
    if character.toNat < point then { state with distance := state.distance + 1 }
    else if character.toNat = point then
      { distance := 0
        bias := adapt state.distance (state.handled + 1) (state.handled == basic)
        handled := state.handled + 1
        written := state.written ++ insertion state.bias 64 1 state.distance }
    else state) progress

/-- The code points outside ASCII of a label, ascending and without repetition. -/
def higherPoints (label : List Char) : List Nat :=
  (((label.map Char.toNat).filter (initialPoint ≤ ·)).mergeSort (· ≤ ·)).eraseDups

/-- Write the insertions of the remaining code points. -/
def insertAll (basic : Nat) (label : List Char) : List Nat → Nat → Progress → Progress
  | [], _, progress => progress
  | point :: rest, reached, progress =>
      let skipped := (point - reached) * (progress.handled + 1)
      let after := insertPoint point basic label
        { progress with distance := progress.distance + skipped }
      insertAll basic label rest (point + 1) { after with distance := after.distance + 1 }

/-- A label in ASCII. -/
def encode (label : List Char) : List Char :=
  let ascii := label.filter (·.toNat < initialPoint)
  let progress := insertAll ascii.length label (higherPoints label) initialPoint
    ⟨0, 72, ascii.length, []⟩
  ascii ++ (if ascii = [] then [] else ['-']) ++ progress.written

/-- Read an insertion number: its value and the text after it. -/
def readInsertion (bias : Nat) : Nat → Nat → List Char → Option (Nat × List Char)
  | _, _, [] => none
  | place, weight, character :: rest => do
      let value ← digitValue? character
      let limit := threshold bias place
      if value < limit then return (value * weight, rest)
      else do
        let (more, after) ← readInsertion bias (place + 1) (weight * (base - limit)) rest
        return (value * weight + more, after)

/-- Apply insertions until the text ends. -/
def readAll : Nat → Nat → Nat → Nat → Bool → List Char → List Char → Option (List Char)
  | 0, _, _, _, _, _, _ => none
  | steps + 1, point, position, bias, first, label, text =>
      if text = [] then some label
      else do
        let (distance, rest) ← readInsertion bias 1 1 text
        let count := label.length + 1
        let reached := position + distance
        let newPoint := point + reached / count
        let place := reached % count
        if newPoint.isValidChar then
          readAll steps newPoint (place + 1) (adapt distance count first) false
            (label.take place ++ Char.ofNat newPoint :: label.drop place) rest
        else none

/-- The label that an ASCII text stands for. -/
def decode? (text : List Char) : Option (List Char) :=
  let reversed := text.reverse
  let tail := (reversed.takeWhile (· ≠ '-')).reverse
  let ascii := ((reversed.dropWhile (· ≠ '-')).drop 1).reverse
  if ascii.all (·.toNat < initialPoint) then
    readAll (tail.length + 1) initialPoint 0 72 true ascii tail
  else none

end HostedCheckout.Punycode
