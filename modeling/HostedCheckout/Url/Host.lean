import HostedCheckout.Url.DomainName
import HostedCheckout.Url.Ipv6
import HostedCheckout.Url.Percent

/-!
# Hosts

The host of a URL is a name or an address.  Web schemes bring names into their
ASCII form and read a name that ends in a number as an IPv4 address; for other
schemes a name is any text without delimiters.
-/

namespace HostedCheckout

/-- The host of a URL. -/
inductive Host where
  | name (text : String)
  | ipv4 (address : Nat)
  | ipv6 (pieces : List Nat)
  deriving DecidableEq, Repr

namespace Host

/-- A host as it is written in a URL. -/
def text : Host → String
  | .name text => text
  | .ipv4 address => Ipv4.text address
  | .ipv6 pieces => s!"[{Ipv6.text pieces}]"

/-- The address between brackets. -/
def bracketed? (inside : List Char) : Option Host :=
  if inside.getLast? = some ']' then (Ipv6.parse? inside.dropLast).map .ipv6 else none

/-- The host of a web URL. -/
def ofWeb? (written : List Char) : Option Host :=
  match written with
  | '[' :: inside => bracketed? inside
  | _ => do
      let domain ← DomainName.toAscii? (Utf8.decodeLossy (Percent.decode (Utf8.encode written)))
      if domain = [] then none
      else if Ipv4.endsInNumber domain then (Ipv4.parse? domain).map .ipv4
      else return .name (String.ofList domain)

/-- Whether a character is refused in the host of any URL. -/
def isForbidden (character : Char) : Bool :=
  "\x00\t\n\r #/:<>?@[\\]^|".toList.contains character

/-- The host of a URL that is not a web URL; the empty text is a host. -/
def ofOther? (written : List Char) : Option Host :=
  match written with
  | '[' :: inside => bracketed? inside
  | _ =>
      if written.any isForbidden then none
      else some (.name (String.ofList (Percent.encode Percent.isControl written)))

/-- The host with the empty name is no host. -/
def present? (host : Host) : Option Host :=
  match host with
  | .name "" => none
  | _ => some host

end Host

end HostedCheckout
