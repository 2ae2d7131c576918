import HostedCheckout.Intent.Basic
import HostedCheckout.Payment.Document

/-!
# Intents as documents

What is sent to create an intent, and what comes back: the new intent, or an
intent with whatever the gateway knows about it.  Of the latter only the status
has to be there.
-/

namespace HostedCheckout

open Json

/-- New intents as records. -/
@[reducible] def CreatedIntent.kind : Kind :=
  .record "CreatedIntent" [.text "id", ⟨"client_secret", Secret.kind, none⟩]
    fun (id, clientSecret, _) => (⟨id, clientSecret⟩ : CreatedIntent)

/-- Attempts to pay, of which only the status is kept. -/
@[reducible] def attemptKind : Kind :=
  .record "PaymentAttempt" [.textOrEmpty "status"] fun (status, _) => status

/-- A field that may be absent or `null`. -/
@[reducible] def Json.Field.optional (name : String) (kind : Kind) : Field :=
  ⟨name, .optional kind, some none⟩

/-- The fields of an intent. -/
@[reducible] def Intent.fields : List Field :=
  [.textOrEmpty "id", .optional "client_secret" .text, .text "status",
    ⟨"amount", .double, some (.zero false)⟩, .textOrEmpty "currency", .textOrEmpty "request_id",
    .textOrEmpty "merchant_order_id", .optional "descriptor" .text,
    .optional "metadata" .members, .optional "latest_payment_attempt" attemptKind]

/-- Intents as records. -/
@[reducible] def Intent.kind : Kind := .record "IntentResponse" fields
  fun (id, clientSecret, status, amount, currency, requestId, order, descriptor, metadata,
      attempt, _) =>
    ({ id := id
       clientSecret := ⟨clientSecret.getD ""⟩
       status := status
       attemptStatus := attempt.getD ""
       amount := amount
       currency := currency
       requestId := requestId
       merchantOrderId := order
       descriptor := descriptor
       metadata := metadata.getD [] } : Intent)

namespace PayRequest

/-- The names of the product of a request. -/
def productNames (request : PayRequest) : ProductNames :=
  ⟨request.productName, request.productDisplayName, request.providerName⟩

/-- The document that describes the product; it has no image without an address. -/
def productDocument (request : PayRequest) : Value :=
  .object
    ([("name", .string request.productDisplayName), ("quantity", .number (.integer 1)),
      ("desc", .string request.productDescription)]
      ++ if request.productImage = "" then []
         else [("image_url", .string request.productImage)])

/-- The document that creates an intent. -/
def intentDocument (request : PayRequest) : Value :=
  let descriptor := Value.string (Descriptor.pack request.productNames)
  .object
    [("request_id", .string request.orderId), ("amount", .ofBinary64 request.price),
      ("currency", .string request.currency), ("merchant_order_id", .string request.orderId),
      ("descriptor", descriptor),
      ("metadata", .object
        [("descriptor", descriptor), ("description", .string request.productDescription)]),
      ("order", .object [("products", .array [request.productDocument])])]

end PayRequest

end HostedCheckout
