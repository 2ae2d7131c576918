import HostedCheckout.Url.Idna.ClassTable
import HostedCheckout.Url.Idna.CompositionTable

/-!
# Canonical composition

Texts that look alike are brought into one form: characters are taken apart as
far as possible, the marks after each base character are sorted by combining
class, and then put together again.  A mark reaches its base unless a mark of
the same or a higher class stands between them.
-/

namespace HostedCheckout.Idna

/-- Combining classes other than zero, as ranges with a class. -/
def combiningClasses : List ((Nat × Nat) × Nat) :=
  (combiningClassLines.flatMap RangeSet.words).map fun text =>
    (RangeSet.entry (text.takeWhile (· ≠ '>')),
      RangeSet.hexadecimal ((text.dropWhile (· ≠ '>')).drop 1))

/-- The combining class of a character; zero for a base character. -/
def combiningClass (character : Char) : Nat :=
  match combiningClasses.find? fun entry =>
      entry.1.1 ≤ character.toNat && character.toNat ≤ entry.1.2 with
  | some (_, rank) => rank
  | none => 0

/-- A character and the two that it is composed of. -/
structure Composition where
  composed : Char
  first : Char
  second : Char

/-- Read one entry of the table. -/
def Composition.entry (text : List Char) : Composition :=
  let parts := (text.dropWhile (· ≠ '>')).drop 1
  let point := fun digits => Char.ofNat (RangeSet.hexadecimal digits)
  ⟨point (text.takeWhile (· ≠ '>')), point (parts.takeWhile (· ≠ '+')),
    point ((parts.dropWhile (· ≠ '+')).drop 1)⟩

/-- All compositions of the table. -/
def compositions : List Composition :=
  (compositionLines.flatMap RangeSet.words).map Composition.entry

namespace Syllable

/-- The first Korean syllable. -/
def first : Nat := 0xAC00

/-- The Korean letters of a syllable. -/
def letters? (point : Nat) : Option (List Nat) :=
  let index := point - first
  if first ≤ point ∧ index < 19 * 588 then
    let final := index % 28
    some ([0x1100 + index / 588, 0x1161 + index % 588 / 28]
      ++ if final = 0 then [] else [0x11A7 + final])
  else none

/-- The syllable of two letters, or of an open syllable and a letter. -/
def join? (left right : Nat) : Option Nat :=
  if 0x1100 ≤ left ∧ left < 0x1113 ∧ 0x1161 ≤ right ∧ right < 0x1176 then
    some (first + ((left - 0x1100) * 21 + (right - 0x1161)) * 28)
  else if first ≤ left ∧ left - first < 19 * 588 ∧ (left - first) % 28 = 0
      ∧ 0x11A7 < right ∧ right < 0x11C3 then
    some (left + (right - 0x11A7))
  else none

end Syllable

/-- Take a character apart; no character of the table is deeper than four. -/
def decomposeChar : Nat → Char → List Char
  | 0, character => [character]
  | depth + 1, character =>
      match Syllable.letters? character.toNat with
      | some letters => letters.map Char.ofNat
      | none =>
          match compositions.find? (·.composed = character) with
          | some entry => decomposeChar depth entry.first ++ decomposeChar depth entry.second
          | none => [character]

/-- Put a mark among the marks of a run, after those of the same class. -/
def insertMark (mark : Char) : List Char → List Char
  | [] => [mark]
  | other :: rest =>
      if combiningClass mark < combiningClass other then mark :: other :: rest
      else other :: insertMark mark rest

/-- Sort each run of marks by combining class. -/
def sortMarks : List Char → List Char → List Char
  | run, [] => run
  | run, character :: rest =>
      if combiningClass character = 0 then run ++ character :: sortMarks [] rest
      else sortMarks (insertMark character run) rest

/-- The character that two others compose. -/
def composePair? (first second : Char) : Option Char :=
  match Syllable.join? first.toNat second.toNat with
  | some point => some (Char.ofNat point)
  | none =>
      (compositions.find? fun entry => entry.first = first && entry.second = second).map
        (·.composed)

/-- Compose what follows a base character; the marks that stay between are
held in reverse. -/
def composeAfter (base : Char) (held : List Char) : List Char → List Char
  | [] => base :: held.reverse
  | character :: rest =>
      let blocked := match held with
        | [] => false
        | last :: _ => combiningClass character ≤ combiningClass last
      match if blocked then none else composePair? base character with
      | some composed => composeAfter composed held rest
      | none =>
          if combiningClass character = 0 then
            base :: held.reverse ++ composeAfter character [] rest
          else composeAfter base (character :: held) rest

/-- Compose a text whose marks are sorted. -/
def compose : List Char → List Char
  | [] => []
  | character :: rest =>
      if combiningClass character = 0 then composeAfter character [] rest
      else character :: compose rest

/-- The composed form of a text. -/
def normalize (text : List Char) : List Char :=
  if text.all (·.toNat < 0xC0) then text
  else compose (sortMarks [] (text.flatMap (decomposeChar 4)))

end HostedCheckout.Idna
