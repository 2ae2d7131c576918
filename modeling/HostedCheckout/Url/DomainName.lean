import HostedCheckout.Url.Idna.Label

/-!
# Domain names in ASCII

A domain name is mapped, composed and cut into labels.  A label that begins
with `xn--` must stand for a label that could not be written in ASCII; any
other label outside ASCII is written in this way.
-/

namespace HostedCheckout.DomainName

open Idna

/-- How an encoded label begins. -/
def mark : List Char := ['x', 'n', '-', '-']

/-- Whether an ASCII character is refused in the host of a URL. -/
def isForbidden (character : Char) : Bool :=
  character.toNat ≤ 0x20 || character.toNat == 0x7F
    || "#%/:<>?@[\\]^|".toList.contains character

/-- Replace the characters of a name, and leave out those that are ignored. -/
def mapped (name : List Char) : List Char :=
  name.flatMap fun character =>
    if ignored.contains character then []
    else (replacement? character).getD [character]

/-- A label as it is written and as it is read. -/
structure Label where
  written : List Char
  read : List Char

/-- Understand one label of a mapped and composed name. -/
def label? (text : List Char) : Option Label :=
  if mark.isPrefixOf text then do
    let read ← Punycode.decode? (text.drop 4)
    if read.all (·.toNat < 0x80) || mark.isPrefixOf read || !isWellFormed read then none
    else return ⟨text, read⟩
  else if text.all (·.toNat < 0x80) then some ⟨text, text⟩
  else if isWellFormed text then some ⟨mark ++ Punycode.encode text, text⟩
  else none

/-- Whether the labels agree on their directions. -/
def directionsFit (labels : List Label) : Bool :=
  let classes := labels.map fun label => label.read.map direction
  !(classes.any (·.any Direction.turns)) || classes.all hasDirection

/-- The ASCII form of a domain name, if it has one. -/
def toAscii? (name : List Char) : Option (List Char) := do
  let labels ← ((normalize (mapped name)).splitOn '.').mapM label?
  let written := List.intercalate ['.'] (labels.map Label.written)
  if directionsFit labels && !written.any isForbidden then return written else none

end HostedCheckout.DomainName
