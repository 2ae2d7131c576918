import HostedCheckout.Json.Writer
import HostedCheckout.Merchant.Failure
import HostedCheckout.Text.Utf8

/-!
# Responses and failures of the service

A response carries a document, a text or nothing.  A failure is answered with
a document that has a single member, the reason.  What went wrong between the
service and the gateway is not told to the caller, nor is what went wrong
inside.
-/

namespace HostedCheckout

open Json

/-- A response; headers are in alphabetical order. -/
structure Response where
  status : Nat
  headers : List (String × String)
  body : String
  deriving DecidableEq, Repr

namespace Response

/-- A response that carries a document. -/
def document (status : Nat) (value : Value) : Response :=
  ⟨status, [("content-type", "application/json")], value.render⟩

/-- A response that carries a text. -/
def text (status : Nat) (body : String) : Response :=
  ⟨status, [("content-type", "text/plain; charset=utf-8")], body⟩

/-- A response that carries nothing. -/
def empty (status : Nat) (headers : List (String × String)) : Response :=
  ⟨status, headers, ""⟩

/-- The response with the size of its body. -/
def withLength (response : Response) : Response :=
  { response with
    headers := ("content-length", toString (Bytes.ofString response.body).length)
      :: response.headers }

end Response

/-- Why the service could not do what it was asked for. -/
inductive ServiceError where
  | badRequest (reason : String)
  | badNotification (reason : String)
  | gateway (detail : String)
  | internal (detail : String)
  deriving DecidableEq, Repr

namespace ServiceError

/-- A failed payment as a failure of the service. -/
def ofPayment : PaymentError → ServiceError
  | .request reason => badRequest reason
  | .notification reason => badNotification reason
  | .gateway error => gateway (String.intercalate ": " error.chain)

/-- What is known of a failure. -/
def detail : ServiceError → String
  | badRequest reason | badNotification reason | gateway reason | internal reason => reason

/-- The status of a failure, and what the caller is told. -/
def told : ServiceError → Nat × String
  | badRequest reason => (400, reason)
  | badNotification reason => (400, reason)
  | gateway _ => (502, "Payment provider unavailable")
  | internal _ => (500, "Internal Server Error")

/-- The response to a failure. -/
def response (error : ServiceError) : Response :=
  .document error.told.1 (.object [("error", .string error.told.2)])

end ServiceError

end HostedCheckout
