import HostedCheckout.Proofs.Merchant.Blame
import HostedCheckout.Service.Handler

/-!
# Blame at the service

A request at a route of payments is read as a call to the merchant, and answered with
what becomes of the call.  The caller is blamed for what is wrong with the request or the
call, and for nothing else; and of all that goes wrong at the gateway the caller learns
the same.
-/

namespace HostedCheckout

open Json

/-- The method by which something is done. -/
def Verb.name : Verb → String
  | .get => "GET"
  | .post => "POST"

/-- A request that is carried out at a route of payments. -/
structure Incoming.Reaches (incoming : Incoming) (route : Route) : Prop where
  route_eq : Route.ofTarget? incoming.target = some route
  method_eq : incoming.method = route.verb.name
  payment : route ≠ .health

/-- The document of an answer. -/
def Answer.toValue : Answer → Value
  | .started response => response.toValue
  | .reported report => report.toValue

namespace ServiceError

theorem status_response_of_not_gateway {error : PaymentError} (other : error.isGateway = false) :
    (ofPayment error).response.status = 400 := by
  cases error with
  | gateway => exact absurd other (Bool.false_ne_true ·.symm)
  | _ => rfl

/-- A failure of the gateway is answered alike, whatever is known of it. -/
theorem response_gateway (detail : String) : (gateway detail).response = (gateway "").response :=
  rfl

end ServiceError

namespace Service

variable {merchant : Merchant} {incoming : Incoming} {route : Route} {session : Session Exchange}

/-! ## Requests as calls -/

theorem exists_of_map_eq_ok {α β : Type} {result : Except Response α} {function : α → β}
    {image : β} (mapped : result.map function = .ok image) :
    ∃ value, result = .ok value ∧ function value = image := by
  cases result with
  | error => cases mapped
  | ok value => exact ⟨value, rfl, Except.ok.inj mapped⟩

theorem error_of_map_eq_error {α β : Type} {result : Except Response α} {function : α → β}
    {response : Response} (mapped : result.map function = .error response) :
    result = .error response := by
  cases result with
  | error => exact congrArg Except.error (Except.error.inj mapped)
  | ok => cases mapped

/-- What a request asks of a merchant, or the answer to one that cannot be read. -/
def readCall (incoming : Incoming) : Route → Option (Except Response Call)
  | .health => none
  | .payments =>
      some (match readPayment incoming with
        | .ok request => .ok (.pay request)
        | .error error => .error error.response)
  | .payment parameter => some ((readParameter parameter).map .query)
  | .notification parameter => some ((readParameter parameter).map (.notify incoming.body))

/-- The response to what becomes of a call. -/
def respond : Except (Halt PaymentError) Answer → Except (Halt Empty) Response
  | .ok answer => .ok (.document 200 answer.toValue)
  | .error (.failed error) => .ok (ServiceError.ofPayment error).response
  | .error .clockOutOfRange => .error .clockOutOfRange

/-- What an operation yields is delivered as a document. -/
theorem deliver_eq {Result : Type} (operation : Operation Exchange PaymentError Result)
    (wrap : Result → Answer) (session : Session Exchange) :
    ((operation.mapError ServiceError.ofPayment >>= fun result =>
        pure (Response.document 200 (wrap result).toValue) :
          Operation Exchange ServiceError Response)) session =
      ((fun answer : Answer => Response.document 200 answer.toValue) <$>
        (wrap <$> operation).mapError ServiceError.ofPayment :
          Operation Exchange ServiceError Response) session := by
  rw [Operation.map_eq, Operation.mapError, Operation.map_eq]
  rcases ran : operation session with ⟨(error | _) | result, after⟩
  · exact Operation.bind_of_error (by rw [Operation.mapError, ran])
  · exact Operation.bind_of_error (by rw [Operation.mapError, ran])
  · exact Operation.bind_of_ok (by rw [Operation.mapError, ran])

theorem answer_of_serve {operation : Operation Exchange PaymentError Answer}
    (served : serve merchant incoming route session =
      ((fun answer : Answer => Response.document 200 answer.toValue) <$>
        operation.mapError ServiceError.ofPayment :
          Operation Exchange ServiceError Response) session) :
    answer merchant incoming route session =
      (respond (operation session).1, (operation session).2) := by
  rw [Operation.map_eq, Operation.mapError] at served
  unfold answer
  rw [served]
  rcases operation session with ⟨(error | _) | result, after⟩ <;> rfl

/-- What comes of a request that has been read is the response to its call. -/
theorem answer_of_call {call : Call} (read : readCall incoming route = some (.ok call))
    (merchant : Merchant) (session : Session Exchange) :
    answer merchant incoming route session =
      (respond (merchant.perform call session).1, (merchant.perform call session).2) := by
  apply answer_of_serve
  cases route with
  | health => cases read
  | payments =>
      simp only [readCall] at read
      split at read
      · rename_i request readable
        cases read
        simp only [serve, readable]
        exact deliver_eq _ .started session
      · cases read
  | payment parameter =>
      obtain ⟨id, readable, rfl⟩ := exists_of_map_eq_ok (Option.some.inj read)
      simp only [serve, readable]
      exact deliver_eq _ .reported session
  | notification parameter =>
      obtain ⟨order, readable, rfl⟩ := exists_of_map_eq_ok (Option.some.inj read)
      simp only [serve, readable]
      exact deliver_eq _ .reported session

theorem status_readParameter {parameter : Parameter} {response : Response}
    (unread : readParameter parameter = .error response) : response.status = 400 := by
  unfold readParameter at unread
  split at unread
  · cases unread
  · cases unread
    rfl

theorem status_readPayment {error : ServiceError} (unread : readPayment incoming = .error error) :
    error.response.status = 400 := by
  unfold readPayment at unread
  split at unread
  · split at unread
    · cases unread
    · cases unread
      rfl
  · cases unread
    rfl

/-- A request that cannot be read is answered at once, and the caller is blamed. -/
theorem answer_of_unread {response : Response}
    (unread : readCall incoming route = some (.error response)) (merchant : Merchant)
    (session : Session Exchange) :
    answer merchant incoming route session = (.ok response, session) ∧ response.status = 400 := by
  cases route with
  | health => cases unread
  | payments =>
      simp only [readCall] at unread
      split at unread
      · cases unread
      · rename_i error unreadable
        cases unread
        refine ⟨?_, status_readPayment unreadable⟩
        unfold answer
        simp only [serve, unreadable]
        rfl
  | payment parameter =>
      have unreadable := error_of_map_eq_error (Option.some.inj unread)
      refine ⟨?_, status_readParameter unreadable⟩
      unfold answer
      simp only [serve, unreadable]
      rfl
  | notification parameter =>
      have unreadable := error_of_map_eq_error (Option.some.inj unread)
      refine ⟨?_, status_readParameter unreadable⟩
      unfold answer
      simp only [serve, unreadable]
      rfl

/-! ## Whom a request is blamed on -/

/-- The answer to a request that is at fault itself, for merchants of some mode. -/
def fault? (mode : NotifyMode) (incoming : Incoming) (route : Route) : Option Response :=
  match readCall incoming route with
  | none => none
  | some (.error response) => some response
  | some (.ok call) => (call.fault? mode).map fun error => (ServiceError.ofPayment error).response

/-- A request that is at fault is answered at once, and the caller is blamed. -/
theorem answer_of_fault {response : Response}
    (fault : fault? merchant.mode incoming route = some response) (session : Session Exchange) :
    answer merchant incoming route session = (.ok response, session) ∧ response.status = 400 := by
  unfold fault? at fault
  split at fault
  · cases fault
  · rename_i unread
    cases fault
    exact answer_of_unread unread merchant session
  · rename_i call read
    obtain ⟨error, faulty, rfl⟩ := Option.map_eq_some_iff.mp fault
    rw [answer_of_call read, Merchant.perform_of_fault faulty]
    exact ⟨rfl, ServiceError.status_response_of_not_gateway (Call.not_gateway_of_fault? faulty)⟩

/-- Any other is answered with a document, or with the failure of the gateway. -/
theorem answer_of_faultless (faultless : fault? merchant.mode incoming route = none)
    (payment : route ≠ .health) (representable : session.Representable) :
    ∃ response, (answer merchant incoming route session).1 = .ok response ∧
      (response.status = 200 ∨ response = (ServiceError.gateway "").response) := by
  unfold fault? at faultless
  split at faultless
  · rename_i unasked
    cases route with
    | health => exact absurd rfl payment
    | _ => exact absurd unasked (Option.some_ne_none _)
  · cases faultless
  · rename_i call read
    rw [answer_of_call read]
    rcases Merchant.perform_of_faultless (Option.map_eq_none_iff.mp faultless) representable with
      ⟨answer, answered⟩ | ⟨error, failed⟩
    · rw [answered]
      exact ⟨_, rfl, .inl rfl⟩
    · rw [failed]
      exact ⟨_, rfl, .inr (ServiceError.response_gateway _)⟩

/-! ## Requests at the service -/

/-- A response on its way out. -/
def sendOut (response : Response) : Response := finish response.withLength

/-- A request at a route is answered as the route answers it. -/
theorem handle_eq_of_reaches (reaches : incoming.Reaches route) (merchant : Merchant)
    (session : Session Exchange) :
    handle merchant incoming session = (sendOut <$> answer merchant incoming route) session := by
  have unoptional : incoming.method ≠ "OPTIONS" := by
    rw [reaches.method_eq]
    cases route.verb <;> decide
  have bodied : incoming.method ≠ "HEAD" := by
    rw [reaches.method_eq]
    cases route.verb <;> decide
  have allowed : incoming.method ∈ route.methods := by
    rw [reaches.method_eq, Route.methods]
    cases route.verb <;> decide
  unfold handle
  simp only [unoptional, if_false, reaches.route_eq, allowed, if_true, bodied]
  rfl

theorem handle_of_reaches (reaches : incoming.Reaches route) {response : Response}
    {after : Session Exchange}
    (answered : answer merchant incoming route session = (.ok response, after)) :
    handle merchant incoming session = (.ok (sendOut response), after) := by
  rw [handle_eq_of_reaches reaches, Operation.map_eq, answered]
  rfl

theorem status_of_handle {response : Response} {after : Session Exchange} {status : Nat}
    (handled : handle merchant incoming session = (.ok response, after))
    (judged : (handle merchant incoming session).1.toOption.map Response.status = some status) :
    response.status = status := by
  rw [handled] at judged
  exact Option.some.inj judged

/-- How a request can end for merchants of some mode: with blame, which leaves the session as
it was, with a result, or with the failure of the gateway. -/
inductive Ends (mode : NotifyMode) (incoming : Incoming) (route : Route)
    (session : Session Exchange) : Response → Session Exchange → Prop
  | blamed {response : Response} (fault : (fault? mode incoming route).isSome = true)
      (status : response.status = 400) : Ends mode incoming route session response session
  | delivered {response : Response} {after : Session Exchange}
      (faultless : fault? mode incoming route = none) (status : response.status = 200) :
      Ends mode incoming route session response after
  | failed {after : Session Exchange} (faultless : fault? mode incoming route = none) :
      Ends mode incoming route session (sendOut (ServiceError.gateway "").response) after

theorem handle_ends (reaches : incoming.Reaches route) (merchant : Merchant)
    (representable : session.Representable) :
    ∃ response after, handle merchant incoming session = (.ok response, after) ∧
      Ends merchant.mode incoming route session response after := by
  cases judged : fault? merchant.mode incoming route with
  | some fault =>
      obtain ⟨answered, status⟩ := answer_of_fault judged session
      exact ⟨_, _, handle_of_reaches reaches answered,
        .blamed (Option.isSome_of_eq_some judged) status⟩
  | none =>
      obtain ⟨response, answered, status | rfl⟩ :=
        answer_of_faultless judged reaches.payment representable
      · exact ⟨_, _, handle_of_reaches reaches (Prod.ext answered rfl), .delivered judged status⟩
      · exact ⟨_, _, handle_of_reaches reaches (Prod.ext answered rfl), .failed judged⟩

namespace Ends

variable {mode : NotifyMode} {response : Response} {after : Session Exchange}

theorem status (ends : Ends mode incoming route session response after) :
    response.status = 200 ∨ response.status = 400 ∨ response.status = 502 := by
  cases ends with
  | blamed fault status => exact .inr (.inl status)
  | delivered faultless status => exact .inl status
  | failed faultless => exact .inr (.inr rfl)

theorem status_eq_400_iff (ends : Ends mode incoming route session response after) :
    response.status = 400 ↔ (fault? mode incoming route).isSome = true := by
  cases ends with
  | blamed fault status => exact iff_of_true status fault
  | delivered faultless status => simp [status, faultless]
  | failed faultless =>
      rw [faultless]
      decide

theorem eq_of_status_eq_400 (ends : Ends mode incoming route session response after)
    (status : response.status = 400) : after = session := by
  cases ends with
  | blamed => rfl
  | delivered faultless delivered => exact absurd (delivered.symm.trans status) (by decide)
  | failed faultless => exact absurd status (by decide)

theorem eq_of_status_eq_502 (ends : Ends mode incoming route session response after)
    (status : response.status = 502) : response = sendOut (ServiceError.gateway "").response := by
  cases ends with
  | blamed fault blamed => exact absurd (blamed.symm.trans status) (by decide)
  | delivered faultless delivered => exact absurd (delivered.symm.trans status) (by decide)
  | failed => rfl

end Ends

/-- Any two requests at routes of payments, to any two merchants in any two sessions in which
the clock can be read, are answered with a result, with blame or with a failure of the
gateway.  To be blamed costs no exchange and leaves the session as it was.  Who is blamed
depends only on the request and the mode of the merchant; and all failures of the gateway
look the same. -/
theorem blame_is_assigned {first second : Merchant} {incoming other : Incoming}
    {route place : Route} {session elsewhere : Session Exchange}
    (reaches : incoming.Reaches route) (otherReaches : other.Reaches place)
    (representable : session.Representable) (elsewhereRepresentable : elsewhere.Representable) :
    ∃ response answer after afterwards,
      handle first incoming session = (.ok response, after) ∧
      handle second other elsewhere = (.ok answer, afterwards) ∧
      (response.status = 200 ∨ response.status = 400 ∨ response.status = 502) ∧
      (response.status = 400 → after = session) ∧
      (incoming = other → first.mode = second.mode →
        (response.status = 400 ↔ answer.status = 400)) ∧
      (response.status = 502 → answer.status = 502 → response.body = answer.body) := by
  obtain ⟨response, after, handled, ends⟩ := handle_ends reaches first representable
  obtain ⟨answer, afterwards, otherHandled, otherEnds⟩ :=
    handle_ends otherReaches second elsewhereRepresentable
  refine ⟨response, answer, after, afterwards, handled, otherHandled, ?_, ?_, ?_, ?_⟩
  · exact ends.status
  · exact ends.eq_of_status_eq_400
  · rintro rfl sameMode
    obtain rfl := Option.some.inj (reaches.route_eq.symm.trans otherReaches.route_eq)
    rw [ends.status_eq_400_iff, otherEnds.status_eq_400_iff, sameMode]
  · intro failed otherFailed
    rw [ends.eq_of_status_eq_502 failed, otherEnds.eq_of_status_eq_502 otherFailed]

/-- A payment is looked up in two sessions, in which different things go wrong at the gateway; and
a notification that says nothing comes in the same two. -/
theorem blame_is_assigned_of_samples :
    let lookUp : Incoming := ⟨"GET", "/v1/payments/int", [], []⟩
    let notification : Incoming := ⟨"POST", "/v1/webhooks/airwallex/o1", [], []⟩
    let unheard := Sample.session [.closed]
    let refused := Sample.session [Sample.grant "t", .answered 500 (Bytes.ofString "why")]
    (∃ response answer after afterwards,
      handle (Sample.merchant .requery) lookUp unheard = (.ok response, after) ∧
      handle (Sample.merchant .requery) lookUp refused = (.ok answer, afterwards) ∧
      response.status = 502 ∧ answer.status = 502 ∧ response.body = answer.body) ∧
    ∃ response answer after afterwards,
      handle (Sample.merchant .requery) notification unheard = (.ok response, after) ∧
      handle (Sample.merchant .requery) notification refused = (.ok answer, afterwards) ∧
      response.status = 400 ∧ answer.status = 400 ∧ after = unheard := by
  intro lookUp notification unheard refused
  constructor
  · have reaches : lookUp.Reaches (.payment ⟨"intent_id", some "int"⟩) :=
      ⟨by decide +kernel, by decide, by decide⟩
    obtain ⟨response, answer, after, afterwards, handled, otherHandled, -, -, -, alike⟩ :=
      @blame_is_assigned (Sample.merchant .requery) (Sample.merchant .requery) _ _ _ _ unheard
        refused reaches reaches (Sample.representable_session _) (Sample.representable_session _)
    have failed : response.status = 502 := status_of_handle handled (by decide +kernel)
    have otherFailed : answer.status = 502 := status_of_handle otherHandled (by decide +kernel)
    exact ⟨response, answer, after, afterwards, handled, otherHandled, failed, otherFailed,
      alike failed otherFailed⟩
  · have reaches : notification.Reaches (.notification ⟨"order_id", some "o1"⟩) :=
      ⟨by decide +kernel, by decide, by decide⟩
    obtain ⟨response, answer, after, afterwards, handled, otherHandled, -, kept, blamed, -⟩ :=
      @blame_is_assigned (Sample.merchant .requery) (Sample.merchant .requery) _ _ _ _ unheard
        refused reaches reaches (Sample.representable_session _) (Sample.representable_session _)
    have status : response.status = 400 := status_of_handle handled (by decide +kernel)
    exact ⟨response, answer, after, afterwards, handled, otherHandled, status,
      (blamed rfl rfl).mp status, kept status⟩

end Service

end HostedCheckout
