import HostedCheckout.Intent.Checkout
import HostedCheckout.Intent.Outcome
import HostedCheckout.Merchant.Failure
import HostedCheckout.Merchant.Intents
import HostedCheckout.Merchant.Notification

/-!
# What a merchant does

A payment is started with an acceptable request and answered with the address
of the checkout page.  Its state is learned by asking the gateway, or from a
notification.  A notification that claims the payment is paid is never believed:
the gateway is asked, and its answer is what is reported.
-/

namespace HostedCheckout

/-- A report with a notification as its message.  An error keeps the message
that explains it. -/
def PaymentReport.recording (body : String) (report : PaymentReport) : PaymentReport :=
  if report.state = .error then report else { report with message := body }

namespace Merchant

/-- Start a payment. -/
def pay (merchant : Merchant) (request : PayRequest) :
    Operation Exchange PaymentError PayResponse := do
  match request.validate with
  | .error fault => Session.fail (.ofRequest fault)
  | .ok () =>
      let intent ← (merchant.account.createIntent request).mapError .ofGateway
      return ⟨Checkout.url merchant.checkoutUrl intent request, intent.id⟩

/-- Ask for the state of a payment. -/
def query (merchant : Merchant) (intentId : String) :
    Operation Exchange PaymentError PaymentReport := do
  let intent ← (merchant.account.lookUpIntent intentId).mapError .ofGateway
  return intent.report intentId

/-- Ask for the intent that a notification names. -/
def confirm (merchant : Merchant) (notification : Notification) (orderId body : String) :
    Operation Exchange GatewayError PaymentReport := do
  match notification.intentId? orderId with
  | none => Session.fail (.notification "notification names no payment intent")
  | some id => return ((← merchant.account.lookUpIntent id).report orderId).recording body

/-- Believe a notification, unless it claims that the payment is paid. -/
def believe (merchant : Merchant) (notification : Notification) (orderId body : String) :
    Operation Exchange GatewayError PaymentReport := do
  let snapshot ← Session.conclude (notification.snapshot orderId)
  let report := (snapshot.report orderId).recording body
  if report.state = .paid then merchant.confirm notification orderId body
  else return report

/-- Interpret a notification that was sent to an order. -/
def notify (merchant : Merchant) (body : Bytes) (orderId : String) :
    Operation Exchange PaymentError PaymentReport :=
  Operation.mapError .ofGateway do
    let notification ← Session.conclude (Notification.read body)
    match merchant.mode with
    | .requery => merchant.confirm notification orderId body.toStringLossy
    | .trustPayload => merchant.believe notification orderId body.toStringLossy

end Merchant

end HostedCheckout
