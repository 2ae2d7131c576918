import HostedCheckout.Proofs.Merchant.Confirmation
import HostedCheckout.Proofs.Merchant.Outcomes

/-!
# The course of a call

A call takes at most two turns: one in which a token is granted, and one in which the
intent is created or looked up with it.  Neither is ever taken again, and the second
never follows a first that has failed.  Calls that are settled at once take no turn,
and no other call is answered without a reply to its second turn.
-/

namespace HostedCheckout

open Json

/-- Turns in which an account asks for what a call is about: the creation of the intent
for a payment, and otherwise the intent that the call names. -/
inductive Account.Orders (account : Account) : Call → String → Turn → Prop
  | creation {request : PayRequest} {token : String} {draft : Draft} {turn : Turn} :
      account.callDraft "POST" "pa/payment_intents/create" token
        (some request.intentDocument) = .ok draft →
      turn.request = draft.request → Orders account (.pay request) token turn
  | inquiry {call : Call} {id token : String} {draft : Draft} {turn : Turn} :
      call.Names id → account.callDraft "GET" s!"pa/payment_intents/{id}" token none = .ok draft →
      turn.request = draft.request → Orders account call token turn

/-- The courses that a call may take in a session.  It takes no turn, or one in which a
token is asked for, or one in which it uses the token that is remembered, or both, and
then uses the token that was granted. -/
inductive Account.Course (account : Account) (call : Call) (session : Session Exchange) :
    List Turn → Prop
  | settled : Course account call session []
  | stopped {turn : Turn} : account.asks turn.request = true → Course account call session [turn]
  | direct {turn : Turn} {token : AccessToken} : session.token = some token →
      account.Orders call token.secret.expose turn → Course account call session [turn]
  | full {grant turn : Turn} {token : AccessToken} : account.asks grant.request = true →
      grant.reply.granted? = some token → account.Orders call token.secret.expose turn →
      Course account call session [grant, turn]

/-- What holds of the turns that a call takes. -/
structure Merchant.KeepsCourse (merchant : Merchant) (call : Call) (session : Session Exchange)
    (turns : List Turn) : Prop where
  taken : (merchant.perform call session).2.source.turns = session.source.turns ++ turns
  course : merchant.account.Course call session turns
  unacceptable : ∀ request, call = .pay request → request.validate ≠ .ok () → turns = []
  misunderstood : ∀ reason,
    (merchant.perform call session).1 = .error (.failed (.notification reason)) → turns = []
  believed : merchant.Believes call → turns = []
  answered : ∀ answer, (merchant.perform call session).1 = .ok answer →
    ¬ merchant.Believes call → ∃ turn ∈ turns, ∃ token status body,
      merchant.account.Orders call token turn ∧ turn.reply = .answered status body ∧ status < 400

namespace Merchant

variable {merchant : Merchant} {call : Call} {demand : Demand} {session : Session Exchange}
  {turns : List Turn}

/-- A demand asks for what its call is about. -/
theorem orders_of_demand (demanded : merchant.demand? call = some demand) {token : String}
    {draft : Draft} (drafted : merchant.account.demandDraft demand token = .ok draft)
    {turn : Turn} (sent : turn.request = draft.request) :
    merchant.account.Orders call token turn := by
  cases call with
  | pay request =>
      simp only [demand?] at demanded
      split at demanded
      · cases demanded
        exact .creation drafted sent
      · cases demanded
  | query intentId =>
      cases demanded
      exact .inquiry rfl drafted sent
  | notify body orderId =>
      simp only [demand?] at demanded
      split at demanded
      · cases demanded
      · rename_i notification read
        split at demanded
        · obtain ⟨id, named, rfl⟩ := Option.map_eq_some_iff.mp demanded
          exact .inquiry (Call.names_of_intentId? read named) drafted sent
        · cases demanded

/-- Meeting the demand of a call, one keeps to the course. -/
theorem course_of_demand (demanded : merchant.demand? call = some demand)
    {result : Except (Halt GatewayError) demand.kind.Carrier × Session Exchange}
    (meets : merchant.account.Meets demand session turns result) :
    merchant.account.Course call session turns := by
  cases meets with
  | halted fetches =>
      cases fetches with
      | unreadable | unsent => exact .settled
      | refused _ prepared _ => exact .stopped (Account.asks_of_prepared prepared)
  | called fetches calls =>
      cases fetches with
      | remembered held _ _ =>
          cases calls with
          | unsent => exact .settled
          | answered drafted | failed drafted | rejected drafted =>
              exact .direct held (orders_of_demand demanded drafted rfl)
      | granted _ prepared granted =>
          have asked := Account.asks_of_prepared prepared
          cases calls with
          | unsent => exact .stopped asked
          | answered drafted | failed drafted | rejected drafted =>
              exact .full asked granted (orders_of_demand demanded drafted rfl)

/-- A demand that is met has been answered. -/
theorem answered_of_demand (demanded : merchant.demand? call = some demand)
    {document : demand.kind.Carrier} {after : Session Exchange}
    (meets : merchant.account.Meets demand session turns (.ok document, after)) :
    ∃ turn ∈ turns, ∃ token status body, merchant.account.Orders call token turn ∧
      turn.reply = .answered status body ∧ status < 400 := by
  cases meets with
  | @called fetched _ token middle _ fetches calls =>
      cases calls with
      | @answered draft value _ drafted shown _ =>
          obtain ⟨status, body, replied, accepted, -⟩ := Reply.value?_eq_some shown
          exact ⟨middle.source.turn draft, List.mem_append_right _ List.mem_cons_self, token,
            status, body, orders_of_demand demanded drafted rfl, replied, accepted⟩

/-- Nothing that goes wrong in meeting a demand is called the fault of a notification. -/
theorem not_notification_of_demand (demanded : merchant.demand? call = some demand)
    (reason : String) :
    (merchant.perform call session).1 ≠ .error (.failed (.notification reason)) := by
  intro failed
  have conveys := conveys_of_demand demanded session
  rw [failed] at conveys
  generalize met : (merchant.account.meet demand session).1 = outcome at conveys
  cases conveys with
  | failed blames =>
      have blamed := blames (merchant.account.not_notification_of_meet met)
      cases blamed

/-- A call without a demand takes no turn, and only a notification that is believed is
answered. -/
theorem keepsCourse_of_settled (settled : merchant.demand? call = none) :
    merchant.KeepsCourse call session [] := by
  refine ⟨?taken, .settled, fun _ _ _ => rfl, fun _ _ => rfl, fun _ => rfl, ?answered⟩
  case taken => rw [perform_of_no_demand settled, List.append_nil]
  case answered =>
    intro answer answered unbelieved
    rcases perform_of_settled settled session with ⟨failure, failed⟩ | ⟨believed, -⟩
    · rw [failed] at answered
      cases answered
    · exact absurd believed unbelieved

/-- A call with a demand takes the turns in which it is met. -/
theorem keepsCourse_of_demand (demanded : merchant.demand? call = some demand)
    (meets : merchant.account.Meets demand session turns (merchant.account.meet demand session)) :
    merchant.KeepsCourse call session turns := by
  refine ⟨?taken, course_of_demand demanded meets, ?unacceptable, ?misunderstood, ?believed,
    ?answered⟩
  case taken =>
    rw [perform_of_demand demanded]
    exact meets.leads.turns_eq
  case unacceptable =>
    rintro request rfl refused
    simp only [demand?] at demanded
    split at demanded
    · rename_i acceptable
      exact absurd acceptable refused
    · cases demanded
  case misunderstood =>
    intro reason failed
    exact absurd failed (not_notification_of_demand demanded reason)
  case believed =>
    intro believed
    rw [demand_of_believed believed] at demanded
    cases demanded
  case answered =>
    intro answer answered unbelieved
    have conveys := conveys_of_demand demanded session
    rw [answered] at conveys
    generalize merchant.account.meet demand session = result at meets conveys
    rcases result with ⟨outcome, after⟩
    cases conveys with
    | answered document => exact answered_of_demand demanded meets

/-- Every call keeps to a course, whatever is remembered, whatever the clock shows and
whatever is replied. -/
theorem keeps_course (merchant : Merchant) (call : Call) (session : Session Exchange) :
    ∃ turns, merchant.KeepsCourse call session turns := by
  cases demanded : merchant.demand? call with
  | none => exact ⟨[], keepsCourse_of_settled demanded⟩
  | some demand =>
      obtain ⟨turns, meets⟩ := merchant.account.meets_meet demand session
      exact ⟨turns, keepsCourse_of_demand demanded meets⟩

end Merchant

end HostedCheckout
