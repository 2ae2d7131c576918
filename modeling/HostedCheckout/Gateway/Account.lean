import HostedCheckout.Gateway.Exchange
import HostedCheckout.Gateway.Session
import HostedCheckout.Json.Record

/-!
# Accounts with a gateway

An account is known to the gateway under a client id and a key.  They are
exchanged for a token, which authorizes all further calls.  No call is made
twice: every failure is handed to the caller.
-/

namespace HostedCheckout

open Json

/-- A client id and a key. -/
structure Credentials where
  clientId : Secret
  apiKey : Secret
  deriving DecidableEq

/-- An account: where the gateway is, and how to identify there. -/
structure Account where
  endpoint : String
  credentials : Credentials
  deriving DecidableEq

/-- The grant of a token as the gateway writes it. -/
@[reducible] def grantKind : Kind :=
  .record "LoginResponse"
    [⟨"token", .optional .text, some none⟩, ⟨"expires_at", .optional .text, some none⟩]
    fun (token, expiry, _) => (token, expiry)

namespace Account

/-- A text without the slashes at its end. -/
def trimEnd (text : String) : String :=
  String.ofList (text.toList.reverse.dropWhile (· == '/')).reverse

/-- A text without the slashes at its front. -/
def trimStart (text : String) : String :=
  String.ofList (text.toList.dropWhile (· == '/'))

/-- The address of a resource. -/
def address (account : Account) (path : String) : String :=
  s!"{trimEnd account.endpoint}/api/v1/{trimStart path}"

/-- How requests with a document declare it. -/
def contentType : String × String := ("content-type", "application/json")

/-- The request for a token. -/
def grantDraft (account : Account) : Except TransportFault Draft :=
  Draft.prepare "POST" (account.address "authentication/login") none
    [contentType, ("x-api-key", account.credentials.apiKey.expose),
      ("x-client-id", account.credentials.clientId.expose)]
    "\x7b\x7d"

/-- The wording for a request for a token that was turned down. -/
def refusal (status : Nat) (body : Bytes) : String :=
  s!"login rejected with status {status}: {body.toStringLossy}"

/-- The token in an answer to a request for one. -/
def readGrant (status : Nat) (body : Bytes) : Except GatewayError AccessToken :=
  if status < 200 ∨ 300 ≤ status then .error (.tokenRefused (refusal status body))
  else match grantKind.readText body with
    | .error error => .error (.tokenUnavailable "undecodable login response" (.document error))
    | .ok (some token, some expiry) =>
        if token = "" ∨ expiry = "" then
          .error (.tokenRefused "invalid response: missing token or expires_at")
        else AccessToken.ofGrant token expiry
    | .ok _ => .error (.tokenRefused "invalid response: missing token or expires_at")

/-- Exchange the credentials for a token. -/
def grant (account : Account) : Grant Exchange := fun exchange =>
  match account.grantDraft with
  | .error fault =>
      (.error (.tokenUnavailable "login request failed" (.transport fault)), exchange)
  | .ok draft =>
      let (answer, exchange) := exchange.send draft
      (match answer with
        | .error fault => .error (.tokenUnavailable "login request failed" (.transport fault))
        | .ok (_, .error fault) =>
            .error (.tokenUnavailable "failed to read login response" (.transport fault))
        | .ok (status, .ok body) => readGrant status body, exchange)

/-- A request that a token authorizes. -/
def callDraft (account : Account) (method path token : String) (document : Option Value) :
    Except TransportFault Draft :=
  Draft.prepare method (account.address path) (some s!"Bearer {token}") [contentType]
    ((document.map Value.render).getD "")

/-- The value in an answer.  It is read whatever the status says, since errors
are reported as documents too. -/
def readAnswer (status : Nat) (body : Bytes) : Except GatewayError Value :=
  match Value.read body with
  | .error error => .error (.document error)
  | .ok value => if 400 ≤ status then .error (.status status value) else .ok value

/-- Call the gateway. -/
def call (account : Account) (method path token : String) (document : Option Value)
    (exchange : Exchange) : Except GatewayError Value × Exchange :=
  match account.callDraft method path token document with
  | .error fault => (.error (.transport fault), exchange)
  | .ok draft =>
      let (answer, exchange) := exchange.send draft
      (match answer with
        | .error fault => .error (.transport fault)
        | .ok (_, .error fault) => .error (.transport fault)
        | .ok (status, .ok body) => readAnswer status body, exchange)

/-- Call the gateway for a document of some kind. -/
def callFor (account : Account) (kind : Kind) (method path token : String)
    (document : Option Value) (exchange : Exchange) :
    Except GatewayError kind.Carrier × Exchange :=
  let (answer, exchange) := account.call method path token document exchange
  (match answer with
    | .error error => .error error
    | .ok value =>
        match kind.ofValue value with
        | .ok decoded => .ok decoded
        | .error error => .error (.document error), exchange)

end Account

end HostedCheckout
