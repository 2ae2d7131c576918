import HostedCheckout.Merchant.Operations

/-!
# Calls

A merchant is called to start a payment, to look one up, or to take in a
notification.  Each call is settled at once or demands one document of the
gateway; which of the two, and what document, depends on the call and on the
mode of the merchant, never on the session.

Merchants of one account may share a session, and are then called one after
another.
-/

namespace HostedCheckout

open Json

/-- What a merchant is asked to do. -/
inductive Call where
  | pay (request : PayRequest)
  | query (intentId : String)
  | notify (body : Bytes) (orderId : String)

/-- What a merchant answers. -/
inductive Answer where
  | started (response : PayResponse)
  | reported (report : PaymentReport)
  deriving DecidableEq

/-- A document that is demanded of the gateway. -/
structure Demand where
  kind : Kind
  method : String
  path : String
  document : Option Value

namespace Demand

/-- That an intent be created. -/
def creation (request : PayRequest) : Demand :=
  ⟨CreatedIntent.kind, "POST", s!"{Account.intentsPath}/create", some request.intentDocument⟩

/-- That an intent be looked up. -/
def inquiry (id : String) : Demand :=
  ⟨Intent.kind, "GET", s!"{Account.intentsPath}/{id}", none⟩

end Demand

/-- Whether a notification claims that the payment is paid. -/
def Notification.claimsPaid (notification : Notification) (orderId : String) : Bool :=
  match notification.snapshot orderId with
  | .ok intent => (intent.report orderId).state == .paid
  | .error _ => false

namespace Merchant

/-- What a call demands of the gateway, unless it is settled at once. -/
def demand? (merchant : Merchant) : Call → Option Demand
  | .pay request =>
      match request.validate with
      | .ok () => some (.creation request)
      | .error _ => none
  | .query intentId => some (.inquiry intentId)
  | .notify body orderId =>
      match Notification.read body with
      | .error _ => none
      | .ok notification =>
          if merchant.mode = .requery ∨ notification.claimsPaid orderId then
            (notification.intentId? orderId).map .inquiry
          else none

/-- Do what is asked. -/
def perform (merchant : Merchant) : Call → Operation Exchange PaymentError Answer
  | .pay request => Answer.started <$> merchant.pay request
  | .query intentId => Answer.reported <$> merchant.query intentId
  | .notify body orderId => Answer.reported <$> merchant.notify body orderId

end Merchant

/-- A call and the merchant that it is made to. -/
structure Visit where
  merchant : Merchant
  call : Call

/-- Serve visits one after another in a shared session. -/
def Session.serve : List Visit → Session Exchange →
    List (Except (Halt PaymentError) Answer) × Session Exchange
  | [], session => ([], session)
  | visit :: rest, session =>
      let (outcome, after) := visit.merchant.perform visit.call session
      let (outcomes, last) := serve rest after
      (outcome :: outcomes, last)

/-- Set up the merchant that options describe, and serve calls to it. -/
def MerchantOptions.serve (options : MerchantOptions) (calls : List Call) (clock : Nat → Int)
    (exchange : Exchange) : List (Except (Halt PaymentError) Answer) × Session Exchange :=
  (options.session clock exchange).serve (calls.map (Visit.mk options.merchant))

end HostedCheckout
