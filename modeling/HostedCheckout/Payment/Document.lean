import HostedCheckout.Json.Record
import HostedCheckout.Payment.Descriptor
import HostedCheckout.Payment.Report
import HostedCheckout.Payment.Request
import HostedCheckout.Secret

/-!
# Payments as documents

The JSON form of requests, responses, reports, product names, states and modes:
the fields of each record in order, the value built from them, and the document
written for it.
-/

namespace HostedCheckout

open Json

/-- A text field. -/
@[reducible] def Json.Field.text (name : String) : Field := ⟨name, .text, none⟩

/-- A text field that is empty when absent. -/
@[reducible] def Json.Field.textOrEmpty (name : String) : Field := ⟨name, .text, some ""⟩

/-- A number field. -/
@[reducible] def Json.Field.double (name : String) : Field := ⟨name, .double, none⟩

/-- Payment states as choices. -/
@[reducible] def PaymentState.kind : Kind := .choice names

/-- Notification modes as choices. -/
@[reducible] def NotifyMode.kind : Kind := .choice names

/-- The fields of a payment request. -/
@[reducible] def PayRequest.fields : List Field :=
  [.text "order_id", .text "product_name", .text "product_display_name",
    .textOrEmpty "product_description", .textOrEmpty "product_image", .double "price",
    .text "currency", .textOrEmpty "return_url", .text "provider_name"]

/-- Payment requests as records. -/
@[reducible] def PayRequest.kind : Kind := .record "PayRequest" fields
  fun (order, product, display, description, image, price, currency, returnUrl, provider, _) =>
    (⟨order, product, display, description, image, price, currency, returnUrl, provider⟩ :
      PayRequest)

/-- The document of a payment request. -/
def PayRequest.toValue (request : PayRequest) : Value :=
  .object [("order_id", .string request.orderId), ("product_name", .string request.productName),
    ("product_display_name", .string request.productDisplayName),
    ("product_description", .string request.productDescription),
    ("product_image", .string request.productImage), ("price", .ofBinary64 request.price),
    ("currency", .string request.currency), ("return_url", .string request.returnUrl),
    ("provider_name", .string request.providerName)]

/-- The fields of the answer to a started payment. -/
@[reducible] def PayResponse.fields : List Field := [.text "pay_url", .text "order_id"]

/-- Answers to started payments as records. -/
@[reducible] def PayResponse.kind : Kind := .record "PayResponse" fields
  fun (payUrl, order, _) => (⟨payUrl, order⟩ : PayResponse)

/-- The document of the answer to a started payment. -/
def PayResponse.toValue (response : PayResponse) : Value :=
  .object [("pay_url", .string response.payUrl), ("order_id", .string response.orderId)]

/-- The fields of a report. -/
@[reducible] def PaymentReport.fields : List Field :=
  [.text "order_id", .text "payment_name", ⟨"payment_status", PaymentState.kind, none⟩,
    .double "price", .text "currency", .text "product_name", .text "product_display_name",
    .text "provider_name", .text "notify_message"]

/-- Reports as records. -/
@[reducible] def PaymentReport.kind : Kind := .record "NotifyResult" fields
  fun (order, payment, state, price, currency, product, display, provider, message, _) =>
    (⟨order, payment, state, price, currency, product, display, provider, message⟩ :
      PaymentReport)

/-- The document of a report. -/
def PaymentReport.toValue (report : PaymentReport) : Value :=
  .object [("order_id", .string report.orderId), ("payment_name", .string report.paymentName),
    ("payment_status", .string report.state.name), ("price", .ofBinary64 report.price),
    ("currency", .string report.currency), ("product_name", .string report.productName),
    ("product_display_name", .string report.productDisplayName),
    ("provider_name", .string report.providerName), ("notify_message", .string report.message)]

/-- The fields of product names. -/
@[reducible] def ProductNames.fields : List Field :=
  [.text "product_name", .text "product_display_name", .text "provider_name"]

/-- Product names as records. -/
@[reducible] def ProductNames.kind : Kind := .record "ProductDescriptor" fields
  fun (product, display, provider, _) => (⟨product, display, provider⟩ : ProductNames)

/-- The document of product names. -/
def ProductNames.toValue (names : ProductNames) : Value :=
  .object [("product_name", .string names.productName),
    ("product_display_name", .string names.displayName),
    ("provider_name", .string names.providerName)]

/-- Secrets are read like texts. -/
@[reducible] def Secret.kind : Kind where
  Carrier := Secret
  read := Secret.mk <$> Kind.text.read
  decode value := (Kind.text.decode value).map Secret.mk

end HostedCheckout
