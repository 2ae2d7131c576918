import HostedCheckout.Intent.Document
import HostedCheckout.Merchant.Basic

/-!
# Creating and looking up intents

Both need a token.  When the gateway rejects it, it is forgotten, so that the
next call asks for another one.
-/

namespace HostedCheckout

open Json

/-- Run a call that a token authorizes, and forget the token if it is rejected. -/
def Session.forgetRejected {Source Result : Type} (token : String)
    (call : Operation Source GatewayError Result) : Operation Source GatewayError Result :=
  fun session =>
    let (outcome, after) := call session
    match outcome with
    | .error (.failed error) =>
        if error.isUnauthorized then
          (outcome, (Session.forget token : Operation Source GatewayError Unit) after |>.2)
        else (outcome, after)
    | _ => (outcome, after)

namespace Account

/-- Call the gateway for a document, with a token of the session. -/
def callWithToken (account : Account) (kind : Kind) (method path : String)
    (document : Option Value) : Operation Exchange GatewayError kind.Carrier := do
  let token ← Session.obtainToken account.grant
  Session.forgetRejected token
    (Session.ask (account.callFor kind method path token document))

/-- Where intents are. -/
def intentsPath : String := "pa/payment_intents"

/-- Create an intent for a request. -/
def createIntent (account : Account) (request : PayRequest) :
    Operation Exchange GatewayError CreatedIntent :=
  (account.callWithToken CreatedIntent.kind "POST" s!"{intentsPath}/create"
    (some request.intentDocument)).mapError .creation

/-- Look up an intent. -/
def lookUpIntent (account : Account) (id : String) : Operation Exchange GatewayError Intent :=
  account.callWithToken Intent.kind "GET" s!"{intentsPath}/{id}" none

end Account

end HostedCheckout
