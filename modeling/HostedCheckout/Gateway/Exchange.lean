import HostedCheckout.Gateway.Failure
import HostedCheckout.Text.Base64
import HostedCheckout.Url.Parser

/-!
# Exchanges of requests and replies

A request is put together from an address, headers and perhaps a body, or
refused before anything is sent.  What happens to a request that is sent is
scripted: each takes the next reply, and is recorded together with it.

A turn is one sending and the reply that comes of it in the end.  Replies have
no headers, and so no `Location`: a redirection is an answer like any other.
What a client does of its own within one sending, such as to follow a
redirection, is not part of a turn.
-/

namespace HostedCheckout

/-- A request as the gateway receives it; headers are in alphabetical order. -/
structure Request where
  method : String
  url : String
  headers : List (String × String)
  body : String
  deriving DecidableEq, Repr

/-- What comes back for a request. -/
inductive Reply where
  /-- A whole answer. -/
  | answered (status : Nat) (body : Bytes)
  /-- The connection is closed without an answer. -/
  | closed
  /-- No answer comes in time. -/
  | silent
  /-- The body of the answer breaks off. -/
  | truncated (status : Nat)
  /-- The request does not reach the gateway. -/
  | unreachable
  deriving DecidableEq, Repr

namespace Reply

/-- Statuses whose answers have no body. -/
def hasNoBody (status : Nat) : Bool :=
  status == 204 || status == 304

/-- The status of an answer, whether or not its body is complete. -/
def status? : Reply → Option Nat
  | answered status _ | truncated status => some status
  | _ => none

/-- The status and the body of a whole answer. -/
def whole? : Reply → Option (Nat × Bytes)
  | answered status body => some (status, if hasNoBody status then [] else body)
  | _ => none

end Reply

/-- A request that was sent, and what came back for it in the end. -/
structure Turn where
  request : Request
  reply : Reply
  deriving DecidableEq, Repr

/-- A line to a gateway: the replies to come, the reply to every later request,
and the turns so far, the latest last. -/
structure Exchange where
  replies : List Reply
  afterwards : Reply
  turns : List Turn
  deriving DecidableEq, Repr

/-- A request before it is sent: its address as it was given, how it is named
when sending fails, and what is sent. -/
structure Draft where
  name : String
  request : Request
  deriving DecidableEq, Repr

namespace Draft

/-- Whether an octet may stand in a header value. -/
def isHeaderOctet (octet : UInt8) : Bool :=
  (0x20 ≤ octet && octet != 0x7F) || octet == 0x09

/-- Whether a text can be sent as a header value. -/
def isHeaderValue (text : String) : Bool :=
  (Bytes.ofString text).all isHeaderOctet

/-- The longest address that can be sent, in octets. -/
def longestAddress : Nat := 65534

/-- Whether an address can be sent: its host must be free of quotes and braces,
and the whole not too long. -/
def isSendable (url : Url) : Bool :=
  url.isHttp
    && (Bytes.ofString url.text).length ≤ longestAddress
    && !((url.authority.map Authority.hostText).getD "").toList.any
        ("\"\x60\x7b\x7d".toList.contains ·)

/-- The user information of an address as the credentials of a request, and the
address without it.  A name that is not UTF-8 is left in the address. -/
def takeCredentials (url : Url) : Option String × Url :=
  match url.authority with
  | none => (none, url)
  | some authority =>
      let plain := fun written => (Percent.decode (Bytes.ofString written)).toString?
      let password := if authority.password = "" then none else plain authority.password
      match plain authority.username with
      | none => (none, url)
      | some username =>
          if username = "" ∧ password = none then (none, url)
          else
            let pair := Bytes.ofString (username ++ ":" ++ password.getD "")
            (some s!"Basic {String.ofList (Base64.encode pair)}",
              { url with authority := some { authority with username := "", password := "" } })

/-- Put a request together.  An address without a host is refused before the
headers are looked at, and one that cannot be sent after them. -/
def prepare (method address : String) (authorization : Option String)
    (headers : List (String × String)) (body : String) : Except TransportFault Draft :=
  match Url.parse? address with
  | none => .error .malformed
  | some url =>
      if url.host.isNone then .error (.unusableAddress url.text)
      else
        let (credentials, url) := takeCredentials url
        let grants := (credentials.toList ++ authorization.toList).map (("authorization", ·))
        if !(headers ++ grants).all (fun header => isHeaderValue header.2) then .error .malformed
        else if !isSendable url then .error (.unusableAddress url.text)
        else .ok ⟨url.text, ⟨method, url.textWithoutFragment, grants ++ headers, body⟩⟩

end Draft

namespace Exchange

/-- The reply to the next request, and the replies after it. -/
def next (exchange : Exchange) : Reply × List Reply :=
  match exchange.replies with
  | [] => (exchange.afterwards, [])
  | reply :: rest => (reply, rest)

/-- The requests that reached the gateway, the latest last. -/
def received (exchange : Exchange) : List Request :=
  (exchange.turns.filter (·.reply ≠ .unreachable)).map Turn.request

/-- What is known of a request after a reply: the status, and the outcome of
reading the body. -/
def outcome (name : String) (reply : Reply) :
    Except TransportFault (Nat × Except TransportFault Bytes) :=
  match reply.whole?, reply.status? with
  | some (status, body), _ => .ok (status, .ok body)
  | none, some status => .ok (status, .error .brokenBody)
  | none, none => .error (.unanswered name)

/-- Send a request and wait for the outcome. -/
def send (draft : Draft) (exchange : Exchange) :
    Except TransportFault (Nat × Except TransportFault Bytes) × Exchange :=
  let (reply, rest) := exchange.next
  (outcome draft.name reply,
    { exchange with replies := rest, turns := exchange.turns ++ [⟨draft.request, reply⟩] })

end Exchange

end HostedCheckout
