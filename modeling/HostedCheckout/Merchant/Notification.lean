import HostedCheckout.Gateway.Failure
import HostedCheckout.Intent.Document
import HostedCheckout.Json.Reader

/-!
# Notifications

A notification is an intent, bare or wrapped into an event as its `object`
within `data`.  Nothing outside the intent is taken into account.
-/

namespace HostedCheckout

open Json

/-- A notification, reduced to the intent it is about. -/
structure Notification where
  intent : Members

namespace Notification

/-- The intent inside an event. -/
def wrapped? (root : Value) : Option Members :=
  match (root.member? "data").bind (·.member? "object") with
  | some (.object members) => some members
  | _ => none

/-- Read a notification. -/
def read (body : Bytes) : Except GatewayError Notification :=
  match Value.read body with
  | .error error => .error (.notification s!"body is not JSON: {error.message}")
  | .ok (.object members) => .ok ⟨(wrapped? (.object members)).getD members⟩
  | .ok _ => .error (.notification "body is not a JSON object")

/-- A member of the intent that is a string. -/
def textMember? (notification : Notification) (key : String) : Option String :=
  (notification.intent.lookup key).bind Value.string?

/-- The intent that is meant.  The order a notification was sent to counts more
than what it says of itself. -/
def intentId? (notification : Notification) (orderId : String) : Option String :=
  if orderId ≠ "" then some orderId
  else (notification.textMember? "id").filter (· ≠ "")

/-- The intent as the notification describes it. -/
def snapshot (notification : Notification) (orderId : String) : Except GatewayError Intent :=
  match notification.textMember? "status" with
  | none => .error (.notification "invalid status in notification")
  | some _ =>
      match Intent.kind.ofValue (.object notification.intent) with
      | .error error => .error (.notification error.message)
      | .ok intent => .ok (if intent.id = "" then { intent with id := orderId } else intent)

end Notification

end HostedCheckout
