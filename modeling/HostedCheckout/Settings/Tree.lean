import HostedCheckout.Toml.Literal

/-!
# Layers of settings

Settings are given in layers, the later of which win key by key.  A layer names
the places it sets by paths, `section.key` or `list[2]`; a key that is not a
path stands for itself.  Tables are merged, everything else is replaced.
-/

namespace HostedCheckout.Settings

open Toml

/-- A step into a tree of settings. -/
inductive Step where
  | key (name : String)
  | place (index : Int)
  deriving DecidableEq, Repr

/-- Whether a character may stand in a key of a path. -/
def isKeyChar (character : Char) : Bool :=
  character.isAlphanum || character == '_' || character == '-'

/-- Whether a character may stand around a place. -/
def isSpacing (character : Char) : Bool :=
  character == ' ' || character == '\t'

/-- The place between brackets, an integer of 64 bits; a negative one is counted from
the end. -/
def place? (text : List Char) : Option Int :=
  let trimmed := ((text.dropWhile isSpacing).reverse.dropWhile isSpacing).reverse
  let digits := if trimmed.head? = some '-' then trimmed.drop 1 else trimmed
  if digits ≠ [] ∧ digits.all Char.isDigit then
    let size : Int := digits.foldl (fun value digit => value * 10 + (digit.toNat - 48)) 0
    Literal.inRange? (if trimmed.head? = some '-' then -size else size)
  else none

/-- The steps after the first key of a path. -/
def laterSteps? : Nat → List Char → Option (List Step)
  | _, [] => some []
  | 0, _ => none
  | bound + 1, '.' :: rest =>
      let name := rest.takeWhile isKeyChar
      if name = [] then none
      else (laterSteps? bound (rest.dropWhile isKeyChar)).map (.key (String.ofList name) :: ·)
  | bound + 1, '[' :: rest =>
      match place? (rest.takeWhile (· ≠ ']')), rest.dropWhile (· ≠ ']') with
      | some index, _ :: after => (laterSteps? bound after).map (.place index :: ·)
      | _, _ => none
  | _, _ => none

/-- The steps of a path. -/
def steps? (path : String) : Option (List Step) :=
  let text := path.toList
  let name := text.takeWhile isKeyChar
  if name = [] then none
  else (laterSteps? text.length (text.dropWhile isKeyChar)).map (.key (String.ofList name) :: ·)

/-- The steps that a key stands for. -/
def stepsOf (key : String) : List Step :=
  (steps? key).getD [.key key]

/-- The entries of a table; anything else has none. -/
def entriesOf : Value → Entries
  | .table entries => entries
  | _ => []

/-- The items of an array; anything else has none. -/
def itemsOf : Value → List Value
  | .array items => items
  | _ => []

/-- Put a value under a key, in the place of the one that is there. -/
def put (key : String) (value : Value) : Entries → Entries
  | [] => [(key, value)]
  | (other, held) :: rest =>
      if key = other then (key, value) :: rest else (other, held) :: put key value rest

mutual

/-- Put a value over another one. -/
def overlay (held : Option Value) : Value → Value
  | .table entries => overlayEntries (held.getD (.table [])) entries
  | value => value

/-- Put the entries of a table over a value, one after the other. -/
def overlayEntries (held : Value) : List (String × Value) → Value
  | [] => held
  | (key, value) :: rest =>
      overlayEntries
        (.table (put key (overlay ((entriesOf held).lookup key) value) (entriesOf held))) rest

end

/-- Empty places at both ends of a list, so that the place exists, and where it
then is. -/
def makePlace (index : Int) (items : List Value) : List Value × Nat :=
  let empty := fun count => List.replicate count (Value.array [])
  if 0 ≤ index then (items ++ empty (index.toNat + 1 - items.length), index.toNat)
  else if index.natAbs ≤ items.length then (items, items.length - index.natAbs)
  else (empty (index.natAbs - items.length) ++ items, 0)

/-- Put a value over what is found after some steps.  What is in the way is
replaced. -/
def assign (value : Value) : List Step → Option Value → Value
  | [], held => overlay held value
  | .key name :: rest, held =>
      let entries := (held.map entriesOf).getD []
      .table (put name (assign value rest (entries.lookup name)) entries)
  | .place index :: rest, held =>
      let (items, position) := makePlace index ((held.map itemsOf).getD [])
      .array (items.set position (assign value rest items[position]?))

/-- A layer: keys and what they are set to. -/
abbrev Layer := Entries

/-- Put layers over one another, the later ones on top. -/
def stack (layers : List Layer) : Entries :=
  entriesOf (layers.flatten.foldl
    (fun tree entry => assign entry.2 (stepsOf entry.1) (some tree)) (.table []))

end HostedCheckout.Settings
