import HostedCheckout.Proofs.Gateway.Histories
import HostedCheckout.Proofs.Session.Twins
import Mathlib.Data.List.Forall2

/-!
# Accounts that differ in credentials

Two accounts that differ in their credentials send the same requests, but for the
values of two headers of those for a token, and understand the replies alike.
-/

namespace HostedCheckout

open Json

/-! ## Requests -/

namespace Draft

/-- A draft with headers added to its request. -/
def withHeaders (headers : List (String × String)) (draft : Draft) : Draft :=
  { draft with request := { draft.request with headers := draft.request.headers ++ headers } }

/-- Headers that can be sent have no influence on anything but themselves. -/
theorem prepare_of_sendable {headers : List (String × String)}
    (sendable : headers.all (isHeaderValue ·.2) = true) (method address : String)
    (authorization : Option String) (body : String) :
    prepare method address authorization headers body =
      (prepare method address authorization [] body).map (withHeaders headers) := by
  unfold prepare
  cases Url.parse? address with
  | none => rfl
  | some url =>
      dsimp only
      rw [List.all_append, sendable, Bool.true_and, List.nil_append]
      split
      · rfl
      · split
        · rfl
        · split
          · rfl
          · simp [Except.map, withHeaders]

end Draft

/-- A request with the values of two headers blotted out, in which credentials are sent. -/
def Request.veiled (request : Request) : Request :=
  { request with
    headers := request.headers.map fun (name, value) =>
      (name, if name = "x-api-key" ∨ name = "x-client-id" then "" else value) }

/-- Whether credentials can be sent in headers. -/
def Credentials.areSendable (credentials : Credentials) : Bool :=
  Draft.isHeaderValue credentials.clientId.expose && Draft.isHeaderValue credentials.apiKey.expose

/-- Requests of two accounts that are the same, or both for a token and the same up to
credentials. -/
def Request.Twins (first second : Account) (here there : Request) : Prop :=
  here = there ∨
    first.asks here = true ∧ second.asks there = true ∧ here.veiled = there.veiled

/-- Turns with such requests and the same reply. -/
structure Turn.Twins (first second : Account) (here there : Turn) : Prop where
  request : here.request.Twins first second there.request
  reply_eq : here.reply = there.reply

/-- Lines on which such turns have been taken, and the same replies are to come. -/
structure Exchange.Twins (first second : Account) (here there : Exchange) : Prop where
  replies_eq : here.replies = there.replies
  afterwards_eq : here.afterwards = there.afterwards
  turns : List.Forall₂ (Turn.Twins first second) here.turns there.turns

namespace Exchange.Twins

variable {first second : Account}

theorem refl (exchange : Exchange) : exchange.Twins first second exchange :=
  ⟨rfl, rfl, List.forall₂_same.mpr fun _ _ => ⟨.inl rfl, rfl⟩⟩

/-- What is known after sending such requests on such lines is the same. -/
theorem send {here there : Exchange} (twins : here.Twins first second there)
    {draft other : Draft} (name_eq : draft.name = other.name)
    (request : draft.request.Twins first second other.request) :
    ∃ answer left right, here.send draft = (answer, left) ∧ there.send other = (answer, right) ∧
      left.Twins first second right := by
  have next_eq : here.next = there.next := by
    unfold next
    rw [twins.replies_eq, twins.afterwards_eq]
  refine ⟨outcome draft.name here.next.1, (here.send draft).2, (there.send other).2, rfl, ?_, ?_⟩
  · rw [name_eq, next_eq]
    rfl
  · have reply_eq : here.next.1 = there.next.1 := by rw [next_eq]
    have rest_eq : here.next.2 = there.next.2 := by rw [next_eq]
    exact ⟨rest_eq, twins.afterwards_eq,
      List.rel_append twins.turns (.cons ⟨request, reply_eq⟩ .nil)⟩

end Exchange.Twins

/-! ## Accounts -/

/-- Accounts that differ at most in credentials, which can all be sent. -/
structure Account.Siblings (first second : Account) : Prop where
  endpoint_eq : first.endpoint = second.endpoint
  areSendable : first.credentials.areSendable = true
  otherAreSendable : second.credentials.areSendable = true

namespace Account

/-- The request for a token without the credentials. -/
def bareGrantDraft (account : Account) : Except TransportFault Draft :=
  Draft.prepare "POST" (account.address "authentication/login") none [] "\x7b\x7d"

/-- The headers of a request for a token. -/
def grantHeaders (account : Account) : List (String × String) :=
  [contentType, ("x-api-key", account.credentials.apiKey.expose),
    ("x-client-id", account.credentials.clientId.expose)]

theorem grantDraft_eq {account : Account}
    (areSendable : account.credentials.areSendable = true) :
    account.grantDraft = account.bareGrantDraft.map (Draft.withHeaders account.grantHeaders) := by
  obtain ⟨clientId, apiKey⟩ := Bool.and_eq_true_iff.mp areSendable
  have declared : Draft.isHeaderValue contentType.2 = true := by decide
  refine Draft.prepare_of_sendable ?_ _ _ _ _
  simp [declared, clientId, apiKey]

theorem veiled_withHeaders (draft : Draft) (first second : Account) :
    (draft.withHeaders first.grantHeaders).request.veiled =
      (draft.withHeaders second.grantHeaders).request.veiled := by
  simp [Request.veiled, Draft.withHeaders, grantHeaders, contentType]

end Account

namespace Account.Siblings

variable {first second : Account} (siblings : first.Siblings second)
include siblings

theorem address_eq : first.address = second.address := by
  funext path
  rw [Account.address, Account.address, siblings.endpoint_eq]

theorem agree_grant : Agree (Exchange.Twins first second) first.grant second.grant := by
  intro here there twins
  have bare : first.bareGrantDraft = second.bareGrantDraft := by
    rw [bareGrantDraft, bareGrantDraft, siblings.address_eq]
  have drafted := grantDraft_eq siblings.areSendable
  have draftedToo := grantDraft_eq siblings.otherAreSendable
  rw [bare] at drafted
  unfold grant
  cases prepared : second.bareGrantDraft with
  | error fault =>
      rw [prepared] at drafted draftedToo
      rw [drafted, draftedToo]
      exact ⟨rfl, twins⟩
  | ok draft =>
      rw [prepared] at drafted draftedToo
      have name_eq : (draft.withHeaders first.grantHeaders).name =
          (draft.withHeaders second.grantHeaders).name := rfl
      have request : (draft.withHeaders first.grantHeaders).request.Twins first second
          (draft.withHeaders second.grantHeaders).request :=
        .inr ⟨asks_of_prepared drafted, asks_of_prepared draftedToo,
          veiled_withHeaders draft first second⟩
      obtain ⟨answer, left, right, sent, sentToo, after⟩ := twins.send name_eq request
      rw [drafted, draftedToo]
      dsimp only [Except.map]
      rw [sent, sentToo]
      exact ⟨rfl, after⟩

theorem agree_callFor (kind : Kind) (method path token : String) (document : Option Value) :
    Agree (Exchange.Twins first second) (first.callFor kind method path token document)
      (second.callFor kind method path token document) := by
  intro here there twins
  have drafted : first.callDraft method path token document =
      second.callDraft method path token document := by
    rw [callDraft, callDraft, siblings.address_eq]
  unfold callFor call
  rw [drafted]
  cases second.callDraft method path token document with
  | error fault => exact ⟨rfl, twins⟩
  | ok draft =>
      obtain ⟨answer, left, right, sent, sentToo, after⟩ := twins.send rfl (.inl rfl)
      dsimp only
      rw [sent, sentToo]
      exact ⟨rfl, after⟩

end Account.Siblings

end HostedCheckout
