import HostedCheckout.Proofs.Json.RoundTrip
import HostedCheckout.Proofs.Service.Blame

/-!
# Failures in documents

A request at a route of payments that does not succeed is answered with a document whose only
member is the reason, whatever becomes of the call that it is read as.  The exception is a
parameter that is no text: it is answered with a text, not with a document.
-/

namespace HostedCheckout

open Json

/-- The parameter of a route. -/
def Route.parameter? : Route → Option Parameter
  | .health | .payments => none
  | .payment parameter | .notification parameter => some parameter

/-- Whether the parameter of a route, if there is one, is a text. -/
def Route.Legible (route : Route) : Prop :=
  ∀ parameter ∈ route.parameter?, parameter.value.isSome = true

/-- Whether a response carries a document whose only member is the reason of a failure. -/
structure Response.Explained (response : Response) : Prop where
  contentType : response.headers.filter (·.1 = "content-type") =
    [("content-type", "application/json")]
  reason : ∃ reason, response.body = (Value.object [("error", .string reason)]).render ∧
    Value.read (Bytes.ofString response.body) = .ok (.object [("error", .string reason)])

namespace Service

variable {incoming : Incoming} {route : Route} {response : Response}

/-! ## Documents and texts -/

/-- No header is added that says what the body is. -/
theorem contentType_sendOut {said : String}
    (typed : response.headers = [("content-type", said)]) :
    (sendOut response).headers.filter (·.1 = "content-type") = [("content-type", said)] := by
  refine List.perm_singleton.mp (((List.mergeSort_perm _ _).filter _).trans ?_)
  simp [openHeaders, Response.withLength, typed]

theorem explained_sendOut_response (error : ServiceError) :
    (sendOut error.response).Explained where
  contentType := contentType_sendOut rfl
  reason := by
    have fits : (Value.object [("error", .string error.told.2)]).fits Scan.depthLimit = true := by
      simp [Value.fits, membersFit, Scan.depthLimit]
    exact ⟨error.told.2, rfl, Value.read_render fits⟩

theorem not_explained_sendOut_text (status : Nat) (body : String) :
    ¬ (sendOut (.text status body)).Explained := by
  intro explained
  have said := explained.contentType
  rw [contentType_sendOut rfl] at said
  simp at said

/-- A request that cannot be read is answered with a document, unless its parameter is no
text. -/
theorem explained_of_unread (unread : readCall incoming route = some (.error response)) :
    (sendOut response).status = 200 ∨ (sendOut response).Explained ↔ route.Legible := by
  have ofParameter {parameter : Parameter} {response : Response}
      (given : route.parameter? = some parameter)
      (unreadable : readParameter parameter = .error response) :
      (sendOut response).status = 200 ∨ (sendOut response).Explained ↔ route.Legible := by
    unfold readParameter at unreadable
    split at unreadable
    · cases unreadable
    · rename_i illegible
      cases unreadable
      refine iff_of_false ?_ fun legible => by simpa [illegible] using legible parameter given
      rintro (succeeded | explained)
      · cases succeeded
      · exact not_explained_sendOut_text _ _ explained
  cases route with
  | health => cases unread
  | payments =>
      simp only [readCall] at unread
      split at unread
      · cases unread
      · cases unread
        exact iff_of_true (.inr (explained_sendOut_response _))
          (by simp [Route.Legible, Route.parameter?])
  | payment parameter =>
      exact ofParameter rfl (error_of_map_eq_error (Option.some.inj unread))
  | notification parameter =>
      exact ofParameter rfl (error_of_map_eq_error (Option.some.inj unread))

theorem legible_of_read {call : Call} (read : readCall incoming route = some (.ok call)) :
    route.Legible := by
  have ofParameter {parameter : Parameter} {text : String}
      (readable : readParameter parameter = .ok text) : parameter.value.isSome = true := by
    unfold readParameter at readable
    split at readable
    · rename_i value
      rw [value, Option.isSome_some]
    · cases readable
  cases route with
  | health => cases read
  | payments => simp [Route.Legible, Route.parameter?]
  | payment parameter =>
      obtain ⟨id, readable, -⟩ := exists_of_map_eq_ok (Option.some.inj read)
      simpa [Route.Legible, Route.parameter?] using ofParameter readable
  | notification parameter =>
      obtain ⟨order, readable, -⟩ := exists_of_map_eq_ok (Option.some.inj read)
      simpa [Route.Legible, Route.parameter?] using ofParameter readable

/-- What becomes of a call is a result, or explained. -/
theorem explained_of_respond {outcome : Except (Halt PaymentError) Answer}
    (responded : respond outcome = .ok response) :
    response.status = 200 ∨ (sendOut response).Explained := by
  rcases outcome with (error | _) | answer <;> cases responded
  · exact .inr (explained_sendOut_response _)
  · exact .inl rfl

/-! ## Any outcome of a call -/

/-- The response to a request at a route of payments, for whatever becomes of its call. -/
def settle (become : Call → Except (Halt PaymentError) Answer) (incoming : Incoming)
    (route : Route) : Except (Halt Empty) Response :=
  match readCall incoming route with
  | none => .ok (sendOut (.document 200 (.object [("status", .string "ok")])))
  | some (.error response) => .ok (sendOut response)
  | some (.ok call) => (respond (become call)).map sendOut

/-- What a merchant makes of calls in a session is one of the ways in which they end. -/
theorem handle_eq_settle (reaches : incoming.Reaches route) (merchant : Merchant)
    (session : Session Exchange) :
    (handle merchant incoming session).1 =
      settle (fun call => (merchant.perform call session).1) incoming route := by
  rw [handle_eq_of_reaches reaches, Operation.map_eq, settle]
  cases read : readCall incoming route with
  | none =>
      cases route with
      | health => exact absurd rfl reaches.payment
      | _ => exact absurd read (Option.some_ne_none _)
  | some result =>
      cases result with
      | error response =>
          rw [(answer_of_unread read merchant session).1]
          rfl
      | ok call => rw [answer_of_call read]

/-- Whatever becomes of its call, a request is answered with success or with the reason of the
failure if and only if the parameter of the route is a text. -/
theorem explained_of_settle (reaches : incoming.Reaches route)
    {become : Call → Except (Halt PaymentError) Answer}
    (settled : settle become incoming route = .ok response) :
    response.status = 200 ∨ response.Explained ↔ route.Legible := by
  unfold settle at settled
  split at settled
  · rename_i unasked
    cases route with
    | health => exact absurd rfl reaches.payment
    | _ => exact absurd unasked (Option.some_ne_none _)
  · rename_i unread
    cases settled
    exact explained_of_unread unread
  · rename_i call read
    cases responded : respond (become call) with
    | error halt =>
        rw [responded] at settled
        cases settled
    | ok inner =>
        rw [responded] at settled
        cases settled
        exact iff_of_true (explained_of_respond responded) (legible_of_read read)

/-- Every request at a route of payments, whatever it carries and whatever becomes of its call,
is answered with success or with a document that has the reason of the failure as its only
member, if and only if the parameter of the route is a text.  That holds of what any merchant
answers in any session. -/
theorem explained_iff_legible (reaches : incoming.Reaches route) :
    (∀ become response, settle become incoming route = .ok response →
      (response.status = 200 ∨ response.Explained ↔ route.Legible)) ∧
    ∀ merchant session, (handle merchant incoming session).1 =
      settle (fun call => (merchant.perform call session).1) incoming route :=
  ⟨fun _ _ settled => explained_of_settle reaches settled, handle_eq_settle reaches⟩

/-- A request for an intent whose name is a text. -/
theorem explained_iff_legible_of_lookUp :
    let lookUp : Incoming := ⟨"GET", "/v1/payments/int%20%E2%82%AC", [], []⟩
    let route : Route := .payment ⟨"intent_id", some "int €"⟩
    (lookUp.Reaches route ∧ route.Legible) ∧
    (∀ become response, settle become lookUp route = .ok response →
      (response.status = 200 ∨ response.Explained ↔ route.Legible)) ∧
    ∀ merchant session, (handle merchant lookUp session).1 =
      settle (fun call => (merchant.perform call session).1) lookUp route := by
  intro lookUp route
  have reaches : lookUp.Reaches route := ⟨by decide +kernel, by decide, by decide⟩
  exact ⟨⟨reaches, by simp [route, Route.Legible, Route.parameter?]⟩,
    explained_iff_legible reaches⟩

/-- A request for an intent whose name is no text is not answered with a document. -/
theorem unexplained_lookUp :
    let lookUp : Incoming := ⟨"GET", "/v1/payments/%FF", [], []⟩
    let route : Route := .payment ⟨"intent_id", none⟩
    lookUp.Reaches route ∧ ∃ response,
      (handle (Sample.merchant .requery) lookUp (Sample.session [])).1 = .ok response ∧
      response.status = 400 ∧ response.headers.filter (·.1 = "content-type") =
        [("content-type", "text/plain; charset=utf-8")] ∧
      response.body = "Invalid URL: Invalid UTF-8 in \x60intent_id\x60" ∧
      ¬ response.Explained := by
  intro lookUp route
  have reaches : lookUp.Reaches route := ⟨by decide +kernel, by decide, by decide⟩
  have text := handle_eq_settle reaches (Sample.merchant .requery) (Sample.session [])
  exact ⟨reaches, _, text, rfl, contentType_sendOut rfl, rfl, not_explained_sendOut_text _ _⟩

end Service

end HostedCheckout
