import HostedCheckout.Proofs.Json.RoundTrip
import HostedCheckout.Proofs.Merchant.Performance

/-!
# What is sent to create an intent

The body of the call that creates an intent is a document that can be read, for any
text in the request.  The texts that are read are those of the request; its price is
read as a number, or is missing when no numeral stands for it.
-/

namespace HostedCheckout

open Json

namespace PayRequest

variable (request : PayRequest)

/-! ## The document -/

theorem fits_ofBinary64 (number : Binary64) (depth : Nat) :
    (Value.ofBinary64 number).fits depth = true := by
  unfold Value.ofBinary64
  split <;> rfl

theorem fits_productDocument : request.productDocument.fits 124 = true := by
  unfold productDocument
  split <;> rfl

theorem fits_intentDocument : request.intentDocument.fits Scan.depthLimit = true := by
  have price := fits_ofBinary64 request.price 126
  have product := request.fits_productDocument
  simp [intentDocument, Value.fits, membersFit, itemsFit, Scan.depthLimit, price, product]

/-- What the body of the call is read as. -/
def sentDocument : Value := request.intentDocument.reread

/-- The body is a document that can be read. -/
theorem read_intentDocument :
    Value.read (Bytes.ofString request.intentDocument.render) = .ok request.sentDocument :=
  Value.read_render request.fits_intentDocument

theorem member?_sentDocument (name : String) :
    request.sentDocument.member? name =
      (request.intentDocument.member? name).map Value.reread := by
  unfold sentDocument intentDocument
  exact Value.member?_reread (by simp) name

theorem member?_requestId :
    request.sentDocument.member? "request_id" = some (.string request.orderId) :=
  request.member?_sentDocument _

theorem member?_merchantOrderId :
    request.sentDocument.member? "merchant_order_id" = some (.string request.orderId) :=
  request.member?_sentDocument _

theorem member?_currency :
    request.sentDocument.member? "currency" = some (.string request.currency) :=
  request.member?_sentDocument _

theorem member?_descriptor :
    request.sentDocument.member? "descriptor" =
      some (.string (Descriptor.pack request.productNames)) :=
  request.member?_sentDocument _

/-- The descriptor is repeated in the metadata. -/
theorem member?_metadata :
    (request.sentDocument.member? "metadata").bind (·.member? "descriptor") =
      some (.string (Descriptor.pack request.productNames)) := by
  rw [member?_sentDocument]
  exact Value.member?_reread (by simp) _

end PayRequest

/-! ## The call -/

namespace Account

variable {account : Account} {request : PayRequest} {session : Session Exchange}
  {turns : List Turn}

/-- What the document of a call becomes. -/
theorem sent_of_callDraft {method path token : String} {document : Value} {draft : Draft}
    (prepared : account.callDraft method path token (some document) = .ok draft) :
    draft.request.method = method ∧ draft.request.body = document.render := by
  obtain ⟨url, -, same⟩ := Draft.request_of_prepare prepared
  rw [same]
  exact ⟨rfl, rfl⟩

theorem createIntent_eq (account : Account) (request : PayRequest) :
    account.createIntent request = (account.meet (.creation request)).mapError .creation := rfl

/-- What is sent with a token is the document. -/
theorem body_of_creation
    (taken : (account.createIntent request session).2.source.turns = session.source.turns ++ turns)
    {turn : Turn} (among : turn ∈ turns) {token : String}
    (carried : turn.request.carries token = true) :
    turn.request.method = "POST" ∧ turn.request.body = request.intentDocument.render := by
  obtain ⟨added, meets⟩ := account.meets_meet (.creation request) session
  rw [createIntent_eq, Operation.mapError_snd, meets.leads.turns_eq] at taken
  obtain rfl := List.append_cancel_left taken
  obtain ⟨held, draft, drafted, same⟩ := meets.exists_draft among carried
  rw [same]
  exact sent_of_callDraft drafted

/-- The document that is sent with a token can be read. -/
theorem sends_of_creation
    (taken : (account.createIntent request session).2.source.turns = session.source.turns ++ turns)
    {turn : Turn} (among : turn ∈ turns) {token : String}
    (carried : turn.request.carries token = true) :
    turn.request.method = "POST" ∧
      Value.read (Bytes.ofString turn.request.body) = .ok request.sentDocument := by
  obtain ⟨method, body⟩ := body_of_creation taken among carried
  rw [body]
  exact ⟨method, request.read_intentDocument⟩

end Account

/-! ## A creation to try things with -/

namespace Sample

/-- A request whose texts hold the marks of queries, documents and descriptors. -/
def request : PayRequest where
  orderId := "o&1=2%"
  productName := "tea\ue000pot"
  productDisplayName := "\"tea pot\" 茶"
  productDescription := ""
  productImage := ""
  price := .ofDecimal false 125 (-1)
  currency := "EUR"
  returnUrl := "https://shop.test/?a=1&b=ü"
  providerName := "\\"

/-- A session in which a token is granted and an intent is created. -/
def creation : Session Exchange :=
  session [grant "t",
    .answered 201 (Bytes.ofString "\x7b\"id\":\"int\",\"client_secret\":\"s+&\"\x7d")]

end Sample

end HostedCheckout
