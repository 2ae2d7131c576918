import HostedCheckout.Proofs.Merchant.Blame

/-!
# How calls end

A call with a demand ends as meeting the demand does: it is answered, fails or breaks
off when that does.  A call without one ends at once, and is answered only if it is a
notification that is believed.
-/

namespace HostedCheckout

theorem PaymentError.isGateway_ofGateway {error : GatewayError}
    (other : error.isNotification = false) : (ofGateway error).isGateway = true := by
  rw [ofGateway_of_not_notification other]
  rfl

/-- Nothing that goes wrong in meeting a demand is the fault of a notification. -/
theorem Account.not_notification_of_meet {account : Account} {demand : Demand}
    {session : Session Exchange} {error : GatewayError}
    (failed : (account.meet demand session).1 = .error (.failed error)) :
    error.isNotification = false := by
  have obtains := session.obtains_obtainToken account.grant
  unfold meet callWithToken at failed
  rcases obtained : session.obtainToken account.grant with ⟨halt | token, middle⟩
  · rw [obtained] at obtains
    rw [Operation.bind_of_error obtained] at failed
    cases obtains with
    | unreadable => cases failed
    | refused _ asked =>
        cases failed
        exact not_notification_of_grant (congrArg Prod.fst asked)
  · rw [Operation.bind_of_ok obtained, Session.forgetRejected_fst] at failed
    simp only [Session.ask] at failed
    split at failed
    · cases failed
    · rename_i called
      cases failed
      exact not_notification_of_callFor called

/-- How the end of a call goes with the end of meeting its demand. -/
inductive Conveys {Document : Type} :
    Except (Halt GatewayError) Document → Except (Halt PaymentError) Answer → Prop
  | answered (document : Document) (answer : Answer) : Conveys (.ok document) (.ok answer)
  | failed {error : GatewayError} {failure : PaymentError} :
      (error.isNotification = false → failure.isGateway = true) →
      Conveys (.error (.failed error)) (.error (.failed failure))
  | brokenOff : Conveys (.error .clockOutOfRange) (.error .clockOutOfRange)

namespace Merchant

variable {merchant : Merchant} {call : Call} {demand : Demand}

/-- A call with a demand ends as meeting it does. -/
theorem conveys_of_demand (demanded : merchant.demand? call = some demand)
    (session : Session Exchange) :
    Conveys (merchant.account.meet demand session).1 (merchant.perform call session).1 := by
  cases call with
  | pay request =>
      simp only [demand?] at demanded
      split at demanded
      · rename_i acceptable
        cases demanded
        simp only [perform, pay_of_acceptable acceptable, Operation.map_eq, Operation.mapError]
        rcases (merchant.account.meet (.creation request) session).1 with (error | _) | document
        · exact .failed fun _ => rfl
        · exact .brokenOff
        · exact .answered _ _
      · cases demanded
  | query intentId =>
      cases demanded
      simp only [perform, query_eq, Operation.map_eq, Operation.mapError]
      rcases (merchant.account.meet (.inquiry intentId) session).1 with (error | _) | document
      · exact .failed PaymentError.isGateway_ofGateway
      · exact .brokenOff
      · exact .answered _ _
  | notify body orderId =>
      simp only [demand?] at demanded
      split at demanded
      · cases demanded
      · rename_i notification read
        split at demanded
        · rename_i asks
          obtain ⟨id, named, rfl⟩ := Option.map_eq_some_iff.mp demanded
          simp only [perform, Operation.map_eq, notify_of_asking read asks, Operation.mapError,
            confirm_of_named named]
          rcases (merchant.account.meet (.inquiry id) session).1 with (error | _) | document
          · exact .failed PaymentError.isGateway_ofGateway
          · exact .brokenOff
          · exact .answered _ _
        · cases demanded

/-- Whether a call is a notification that the merchant believes, or would if it could be
understood. -/
def Believes (merchant : Merchant) : Call → Prop
  | .notify body orderId => merchant.mode = .trustPayload ∧
      ∀ notification, Notification.read body = .ok notification →
        notification.claimsPaid orderId = false
  | _ => False

theorem demand_of_believed (believed : merchant.Believes call) : merchant.demand? call = none := by
  cases call with
  | pay | query => cases believed
  | notify body orderId =>
      obtain ⟨trusting, silent⟩ := believed
      cases read : Notification.read body with
      | error => simp [demand?, read]
      | ok notification => simp [demand?, read, trusting, silent notification read]

/-- A call without a demand fails at once, or is a notification that is believed. -/
theorem perform_of_settled (settled : merchant.demand? call = none) (session : Session Exchange) :
    (∃ failure, merchant.perform call session = (.error (.failed failure), session)) ∨
      merchant.Believes call ∧ ∃ answer, merchant.perform call session = (.ok answer, session) := by
  cases call with
  | pay request =>
      simp only [demand?] at settled
      split at settled
      · cases settled
      · rename_i refused
        simp only [perform, Operation.map_eq, pay, refused]
        exact .inl ⟨_, rfl⟩
  | query intentId => cases settled
  | notify body orderId =>
      simp only [demand?] at settled
      simp only [perform, Operation.map_eq]
      split at settled
      · rename_i unread
        rw [notify_of_unread unread]
        exact .inl ⟨_, rfl⟩
      · rename_i notification read
        split at settled
        · rename_i asks
          rw [notify_of_asking read asks,
            confirm_of_unnamed (Option.map_eq_none_iff.mp settled)]
          exact .inl ⟨_, rfl⟩
        · rename_i believes
          obtain ⟨trusting, silent⟩ := not_or.mp believes
          simp only [notify_of_believing read believes, Operation.mapError]
          cases shown : notification.snapshot orderId with
          | error error =>
              unfold believe
              rw [Operation.conclude_bind_of_error shown]
              exact .inl ⟨_, rfl⟩
          | ok intent =>
              rw [believe_of_shown shown silent]
              refine .inr ⟨⟨?_, fun other same => ?_⟩, _, rfl⟩
              · cases mode : merchant.mode with
                | requery => exact absurd mode trusting
                | trustPayload => rfl
              · obtain rfl := Except.ok.inj (read.symm.trans same)
                exact Bool.eq_false_iff.mpr silent

end Merchant

end HostedCheckout
