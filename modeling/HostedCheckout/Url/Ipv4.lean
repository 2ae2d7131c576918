/-!
# IPv4 addresses in URLs

A host whose last label is a number is an IPv4 address or no host at all.  Up
to four numbers are accepted, decimal, octal after `0` or hexadecimal after
`0x`; the last one fills all octets that are left.
-/

namespace HostedCheckout.Ipv4

/-- The value of a digit in a base up to sixteen. -/
def digitValue? (base : Nat) (character : Char) : Option Nat :=
  let value :=
    if '0' ≤ character ∧ character ≤ '9' then some (character.toNat - 48)
    else if 'a' ≤ character ∧ character ≤ 'f' then some (character.toNat - 87)
    else if 'A' ≤ character ∧ character ≤ 'F' then some (character.toNat - 55)
    else none
  value.filter (· < base)

/-- The number that digits spell; no digits spell zero. -/
def number? (base : Nat) (digits : List Char) : Option Nat :=
  digits.foldlM (fun value digit => (digitValue? base digit).map (value * base + ·)) 0

/-- One number of an address. -/
def part? : List Char → Option Nat
  | [] => none
  | '0' :: 'x' :: digits => number? 16 digits
  | '0' :: 'X' :: digits => number? 16 digits
  | '0' :: digit :: digits => number? 8 (digit :: digits)
  | digits => number? 10 digits

/-- The labels of a host, without the empty one after a final point. -/
def labels (host : List Char) : List (List Char) :=
  let all := host.splitOn '.'
  if all.getLast? = some [] then all.dropLast else all

/-- Whether the last label of a host is a number. -/
def endsInNumber (host : List Char) : Bool :=
  match (labels host).getLast? with
  | some label => label != [] && (label.all Char.isDigit || (part? label).isSome)
  | none => false

/-- The address that numbers stand for: each but the last is one octet, and the
last fills the octets that are left. -/
def combine? (numbers : List Nat) : Option Nat :=
  match numbers.reverse with
  | [] => none
  | last :: others =>
      let room := Nat.pow 256 (4 - others.length)
      if others.length ≤ 3 ∧ others.all (· < 256) ∧ last < room then
        some (others.foldr (fun octet high => high * 256 + octet) 0 * room + last)
      else none

/-- The address of a host. -/
def parse? (host : List Char) : Option Nat := do
  combine? (← (labels host).mapM part?)

/-- An address in four decimal numbers. -/
def text (address : Nat) : String :=
  String.intercalate "." ([3, 2, 1, 0].map fun place =>
    toString (address / Nat.pow 256 place % 256))

end HostedCheckout.Ipv4
