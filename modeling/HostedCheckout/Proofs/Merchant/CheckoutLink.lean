import HostedCheckout.Proofs.Json.Record
import HostedCheckout.Proofs.Merchant.Creation
import HostedCheckout.Proofs.Url.Form

/-!
# Checkout links

The link to the checkout page carries just the payment that was created: whatever the
texts of the request and of the reply are, the query of the link stands for eight pairs
made of them, and for nothing else.  What was sent to the gateway agrees with them.
-/

namespace HostedCheckout

open Json

/-- Whether an address is a base, perhaps a mark, and a query that stands for some pairs
and is written of nothing but the characters of forms. -/
def Checkout.Extends (base address : String) (pairs : List (String × String)) : Prop :=
  ∃ mark query : String,
    mark ∈ ["", "?", "&"] ∧ address = base ++ mark ++ query ∧
      (∀ character ∈ query.toList, Form.isFormCharacter character = true) ∧
      Form.decode query.toList = pairs

theorem Checkout.extends_url (base : String) (intent : CreatedIntent) (request : PayRequest) :
    Checkout.Extends base (Checkout.url base intent request)
      (Checkout.parameters intent request) := by
  refine ⟨String.ofList (separator base.toList),
    String.ofList (Form.encode (parameters intent request)), ?_, ?_, ?_, ?_⟩
  · unfold separator
    split
    · decide
    · split <;> decide
  · rw [Checkout.url, String.ofList_append, String.ofList_append, String.ofList_toList]
  · intro character among
    rw [String.toList_ofList] at among
    exact Form.isFormCharacter_of_mem_encode among
  · rw [String.toList_ofList, Form.decode_encode]

/-! ## New intents -/

namespace CreatedIntent

/-- The fields of a new intent. -/
@[reducible] def fields : List Field := [.text "id", ⟨"client_secret", Secret.kind, none⟩]

theorem admits_secret_iff {name : String} {secret : Secret} {given : Option Value} :
    Field.Admits ⟨name, Secret.kind, none⟩ secret given ↔ given = some (.string secret.expose) := by
  obtain ⟨text⟩ := secret
  cases given with
  | none => simp [Field.Admits]
  | some value => cases value <;> simp [Field.Admits, Except.map, Secret.expose]

/-- The texts of a new intent are those that were given for it. -/
theorem given_of_kind {value : Value} {intent : CreatedIntent}
    (decoded : kind.ofValue value = .ok intent) :
    value.given? fields "id" = some (.string intent.id) ∧
      value.given? fields "client_secret" = some (.string intent.clientSecret.expose) := by
  obtain ⟨⟨id, secret, -⟩, ⟨givenId, givenSecret, -⟩, rfl⟩ :=
    Kind.agrees_of_record (by decide) decoded
  exact ⟨Field.admits_text_iff.mp givenId, admits_secret_iff.mp givenSecret⟩

end CreatedIntent

/-- Whether a turn shows a new intent: its request carries a token, and the reply gives
the texts of the intent. -/
structure Turn.Opens (turn : Turn) (intent : CreatedIntent) : Prop where
  carries : ∃ token, turn.request.carries token = true
  shown : ∃ value, turn.reply.value? = some value ∧
    value.given? CreatedIntent.fields "id" = some (.string intent.id) ∧
    value.given? CreatedIntent.fields "client_secret" = some (.string intent.clientSecret.expose)

/-- The intent that a creation ends with was shown in one of its turns. -/
theorem Account.Meets.opens {account : Account} {request : PayRequest}
    {session after : Session Exchange} {turns : List Turn} {intent : CreatedIntent}
    (meets : account.Meets (.creation request) session turns (.ok intent, after)) :
    ∃ turn ∈ turns, turn.Opens intent := by
  cases meets with
  | @called fetched _ token middle _ fetches calls =>
      cases calls with
      | @answered draft value _ drafted read decoded =>
          refine ⟨middle.source.turn draft, List.mem_append_right _ List.mem_cons_self, ?_, ?_⟩
          · exact ⟨token, (carries_callDraft drafted token).mpr rfl⟩
          · exact ⟨value, read, CreatedIntent.given_of_kind decoded⟩

theorem Account.opens_of_createIntent {account : Account} {request : PayRequest}
    {session : Session Exchange} {intent : CreatedIntent}
    (created : (account.createIntent request session).1 = .ok intent) :
    ∃ turns, (account.createIntent request session).2.source.turns =
        session.source.turns ++ turns ∧ ∃ turn ∈ turns, turn.Opens intent := by
  have met : (account.meet (.creation request) session).1 = .ok intent :=
    Operation.mapError_fst_eq_ok_iff.mp created
  rw [createIntent_eq, Operation.mapError_snd]
  obtain ⟨turns, meets⟩ := account.meets_meet (.creation request) session
  refine ⟨turns, meets.leads.turns_eq, ?_⟩
  generalize account.meet (.creation request) session = result at met meets
  obtain ⟨outcome, after⟩ := result
  obtain rfl : outcome = .ok intent := met
  exact meets.opens

namespace Merchant

/-- A payment that is started has been accepted, and an intent was created for it. -/
theorem created_of_pay {merchant : Merchant} {request : PayRequest} {session : Session Exchange}
    {response : PayResponse} (started : (merchant.pay request session).1 = .ok response) :
    ∃ intent, (merchant.account.createIntent request session).1 = .ok intent ∧
      (merchant.pay request session).2 = (merchant.account.createIntent request session).2 ∧
      response = ⟨Checkout.url merchant.checkoutUrl intent request, intent.id⟩ := by
  cases validated : request.validate with
  | error fault =>
      simp only [pay, validated] at started
      cases started
  | ok =>
      rw [pay_of_acceptable validated] at started ⊢
      obtain ⟨intent, created, rfl⟩ := Operation.map_fst_eq_ok_iff.mp started
      refine ⟨intent, Operation.mapError_fst_eq_ok_iff.mp created, ?_, rfl⟩
      rw [Operation.map_snd, Operation.mapError_snd, Account.createIntent_eq]

/-- The link of a payment that is started carries just the payment.  The intent in it was
shown in a turn of this very call, under whose identifier the payment is known from now
on; and all that was sent with a token is a document that agrees with the link. -/
theorem link_carries_payment {merchant : Merchant} {request : PayRequest}
    {session : Session Exchange} {response : PayResponse}
    (started : (merchant.pay request session).1 = .ok response) :
    ∃ (intent : CreatedIntent) (turns : List Turn) (sent : Value),
      Checkout.Extends merchant.checkoutUrl response.payUrl
        [("intent_id", intent.id), ("client_secret", intent.clientSecret.expose),
          ("currency", request.currency), ("amount", request.price.displayText),
          ("sessionId", request.orderId), ("successUrl", request.returnUrl),
          ("failUrl", request.returnUrl), ("logoUrl", Checkout.logoUrl request.returnUrl)] ∧
      response.orderId = intent.id ∧
      (merchant.pay request session).2.source.turns = session.source.turns ++ turns ∧
      (∃ turn ∈ turns, turn.Opens intent) ∧
      (∀ turn ∈ turns, ∀ token, turn.request.carries token = true →
        turn.request.method = "POST" ∧
          Value.read (Bytes.ofString turn.request.body) = .ok sent) ∧
      sent.member? "request_id" = some (.string request.orderId) ∧
      sent.member? "merchant_order_id" = some (.string request.orderId) ∧
      sent.member? "currency" = some (.string request.currency) := by
  obtain ⟨intent, created, after, rfl⟩ := created_of_pay started
  obtain ⟨turns, taken, opened⟩ := Account.opens_of_createIntent created
  refine ⟨intent, turns, request.sentDocument, ?_, rfl, ?_, opened, ?_,
    request.member?_requestId, request.member?_merchantOrderId, request.member?_currency⟩
  · exact Checkout.extends_url merchant.checkoutUrl intent request
  · rw [after, taken]
  · intro turn among token carried
    exact Account.sends_of_creation taken among carried

/-- A payment is started for texts that hold the marks of queries. -/
theorem link_carries_payment_of_marks :
    ∃ response,
      ((Sample.merchant .requery).pay Sample.request Sample.creation).1 = .ok response ∧
      ∃ (intent : CreatedIntent) (turns : List Turn) (sent : Value),
        Checkout.Extends "https://c/?" response.payUrl
          (Checkout.parameters intent Sample.request) ∧
        response.orderId = intent.id ∧
        ((Sample.merchant .requery).pay Sample.request Sample.creation).2.source.turns =
          [] ++ turns ∧
        (∃ turn ∈ turns, turn.Opens intent) ∧
        (∀ turn ∈ turns, ∀ token, turn.request.carries token = true →
          turn.request.method = "POST" ∧
            Value.read (Bytes.ofString turn.request.body) = .ok sent) ∧
        sent.member? "request_id" = some (.string "o&1=2%") ∧
        sent.member? "merchant_order_id" = some (.string "o&1=2%") ∧
        sent.member? "currency" = some (.string "EUR") := by
  have answered :
      ((Sample.merchant .requery).pay Sample.request Sample.creation).1.toOption.isSome = true := by
    decide +kernel
  obtain ⟨response, started⟩ := Option.isSome_iff_exists.mp answered
  exact ⟨response, toOption_eq_some_iff.mp started,
    link_carries_payment (toOption_eq_some_iff.mp started)⟩

end Merchant

end HostedCheckout
