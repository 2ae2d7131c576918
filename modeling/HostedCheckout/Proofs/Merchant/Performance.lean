import HostedCheckout.Proofs.Merchant.Demands

/-!
# What a call comes to

A call changes the session as meeting its demand does, and not at all when it
has none.  So the turns of a call lead to what is left of the session, and so do
the turns of any number of calls, one after another.
-/

namespace HostedCheckout

namespace PaymentReport

@[simp] theorem state_recording (body : String) (report : PaymentReport) :
    (report.recording body).state = report.state := by
  unfold recording
  split <;> rfl

@[simp] theorem price_recording (body : String) (report : PaymentReport) :
    (report.recording body).price = report.price := by
  unfold recording
  split <;> rfl

@[simp] theorem currency_recording (body : String) (report : PaymentReport) :
    (report.recording body).currency = report.currency := by
  unfold recording
  split <;> rfl

end PaymentReport

namespace Merchant

variable {merchant : Merchant} {notification : Notification} {orderId : String}

theorem query_eq (merchant : Merchant) (intentId : String) :
    merchant.query intentId =
      (fun intent => intent.report intentId) <$>
        (merchant.account.meet (.inquiry intentId)).mapError .ofGateway := by
  unfold query
  rw [map_eq_pure_bind]
  rfl

theorem pay_of_acceptable {request : PayRequest} (acceptable : request.validate = .ok ())
    (merchant : Merchant) :
    merchant.pay request =
      (fun intent => ⟨Checkout.url merchant.checkoutUrl intent request, intent.id⟩) <$>
        ((merchant.account.meet (.creation request)).mapError .creation).mapError .ofGateway := by
  unfold pay
  rw [acceptable, map_eq_pure_bind]
  rfl

theorem confirm_of_named {id : String} (named : notification.intentId? orderId = some id)
    (merchant : Merchant) (body : String) :
    merchant.confirm notification orderId body =
      (fun intent => (intent.report orderId).recording body) <$>
        merchant.account.meet (.inquiry id) := by
  unfold confirm
  rw [named, map_eq_pure_bind]
  rfl

theorem confirm_of_unnamed (unnamed : notification.intentId? orderId = none)
    (merchant : Merchant) (body : String) :
    merchant.confirm notification orderId body =
      Session.fail (.notification "notification names no payment intent") := by
  unfold confirm
  rw [unnamed]

/-- A notification that claims the payment is paid is not believed. -/
theorem believe_of_claim (claims : notification.claimsPaid orderId = true) (merchant : Merchant)
    (body : String) (session : Session Exchange) :
    merchant.believe notification orderId body session =
      merchant.confirm notification orderId body session := by
  unfold Notification.claimsPaid at claims
  unfold believe
  split at claims
  · rename_i intent snapshot
    have paid : ((intent.report orderId).recording body).state = .paid := by
      simpa using eq_of_beq claims
    rw [Operation.conclude_bind_of_ok snapshot]
    simp only [paid, if_true]
  · exact absurd claims Bool.false_ne_true

/-- Any other notification is settled at once, and never as paid. -/
theorem believe_of_no_claim (silent : notification.claimsPaid orderId = false)
    (merchant : Merchant) (body : String) (session : Session Exchange) :
    (merchant.believe notification orderId body session).2 = session ∧
      ∀ report, (merchant.believe notification orderId body session).1 = .ok report →
        report.state ≠ .paid := by
  unfold Notification.claimsPaid at silent
  unfold believe
  cases snapshot : notification.snapshot orderId with
  | error error =>
      rw [Operation.conclude_bind_of_error rfl]
      exact ⟨rfl, fun report reported => by cases reported⟩
  | ok intent =>
      rw [snapshot] at silent
      have unpaid : ((intent.report orderId).recording body).state ≠ .paid := by
        simpa using silent
      rw [Operation.conclude_bind_of_ok rfl]
      simp only [unpaid, if_false]
      refine ⟨rfl, fun report reported => ?_⟩
      obtain rfl := Except.ok.inj reported
      exact unpaid

variable {body : Bytes}

/-- How a notification is taken in once it has been read. -/
theorem notify_of_read (read : Notification.read body = .ok notification) (merchant : Merchant)
    (session : Session Exchange) :
    merchant.notify body orderId session =
      (match merchant.mode with
        | .requery => merchant.confirm notification orderId body.toStringLossy
        | .trustPayload => merchant.believe notification orderId body.toStringLossy).mapError
          .ofGateway session :=
  Operation.mapError_congr (Operation.conclude_bind_of_ok read session) _

theorem notify_of_unread {error : GatewayError} (unread : Notification.read body = .error error)
    (merchant : Merchant) (session : Session Exchange) :
    merchant.notify body orderId session = (.error (.failed (.ofGateway error)), session) := by
  have failed : merchant.notify body orderId session =
      (Session.fail error : Operation Exchange GatewayError PaymentReport).mapError .ofGateway
        session :=
    Operation.mapError_congr (Operation.conclude_bind_of_error unread session) _
  rw [failed]
  rfl

/-- The gateway is asked in both modes when the notification claims that the
payment is paid, and always in one of them. -/
theorem notify_of_asking (read : Notification.read body = .ok notification)
    (asks : merchant.mode = .requery ∨ notification.claimsPaid orderId = true)
    (session : Session Exchange) :
    merchant.notify body orderId session =
      (merchant.confirm notification orderId body.toStringLossy).mapError .ofGateway session := by
  rw [notify_of_read read]
  refine Operation.mapError_congr ?_ _
  cases mode : merchant.mode with
  | requery => rfl
  | trustPayload =>
      rcases asks with requery | claims
      · rw [mode] at requery
        contradiction
      · exact believe_of_claim claims merchant body.toStringLossy session

theorem notify_of_believing (read : Notification.read body = .ok notification)
    (believes : ¬(merchant.mode = .requery ∨ notification.claimsPaid orderId = true))
    (session : Session Exchange) :
    merchant.notify body orderId session =
      (merchant.believe notification orderId body.toStringLossy).mapError .ofGateway session := by
  rw [notify_of_read read]
  cases mode : merchant.mode with
  | requery => exact absurd (.inl mode) believes
  | trustPayload => rfl

/-! ## Calls and demands -/

/-- A call without a demand leaves the session alone. -/
theorem perform_of_no_demand {call : Call} (settled : merchant.demand? call = none)
    (session : Session Exchange) : (merchant.perform call session).2 = session := by
  cases call with
  | pay request =>
      simp only [demand?] at settled
      split at settled
      · exact absurd settled (Option.some_ne_none _)
      · rename_i fault refused
        simp only [perform, Operation.map_snd, pay, refused]
        rfl
  | query intentId => exact absurd settled (Option.some_ne_none _)
  | notify body orderId =>
      simp only [perform, Operation.map_snd]
      simp only [demand?] at settled
      split at settled
      · rename_i error unread
        rw [notify_of_unread unread]
      · rename_i notification read
        split at settled
        · rename_i asks
          rw [notify_of_asking read asks, Operation.mapError_snd]
          rw [confirm_of_unnamed (Option.map_eq_none_iff.mp settled)]
          rfl
        · rename_i believes
          rw [notify_of_believing read believes, Operation.mapError_snd]
          have silent : notification.claimsPaid orderId = false := by
            simpa using (not_or.mp believes).2
          exact (believe_of_no_claim silent merchant _ session).1

/-- A call with a demand does to the session what meeting the demand does. -/
theorem perform_of_demand {call : Call} {demand : Demand}
    (demanded : merchant.demand? call = some demand) (session : Session Exchange) :
    (merchant.perform call session).2 = (merchant.account.meet demand session).2 := by
  cases call with
  | pay request =>
      simp only [demand?] at demanded
      split at demanded
      · rename_i acceptable
        cases demanded
        simp only [perform, Operation.map_snd, pay_of_acceptable acceptable,
          Operation.mapError_snd]
      · exact absurd demanded (Option.some_ne_none _).symm
  | query intentId =>
      cases demanded
      simp only [perform, Operation.map_snd, query_eq, Operation.mapError_snd]
  | notify body orderId =>
      simp only [perform, Operation.map_snd]
      simp only [demand?] at demanded
      split at demanded
      · exact absurd demanded (Option.some_ne_none _).symm
      · rename_i notification read
        split at demanded
        · rename_i asks
          obtain ⟨id, named, rfl⟩ := Option.map_eq_some_iff.mp demanded
          rw [notify_of_asking read asks, Operation.mapError_snd, confirm_of_named named,
            Operation.map_snd]
        · exact absurd demanded (Option.some_ne_none _).symm

/-- The turns of a call lead to what is left of the session. -/
theorem leads_of_perform (merchant : Merchant) (call : Call) (session : Session Exchange) :
    ∃ turns, merchant.account.Leads turns session (merchant.perform call session).2 := by
  cases demanded : merchant.demand? call with
  | none =>
      rw [perform_of_no_demand demanded]
      exact ⟨[], .refl session⟩
  | some demand =>
      rw [perform_of_demand demanded]
      obtain ⟨turns, meets⟩ := merchant.account.meets_meet demand session
      exact ⟨turns, meets.leads⟩

end Merchant

/-- So do the turns of any number of visits to merchants of one account. -/
theorem Session.leads_of_serve {account : Account} (visits : List Visit)
    (shared : ∀ visit ∈ visits, visit.merchant.account = account) (session : Session Exchange) :
    ∃ turns, account.Leads turns session (session.serve visits).2 := by
  induction visits generalizing session with
  | nil => exact ⟨[], .refl session⟩
  | cons visit rest ih =>
      obtain ⟨first, here⟩ := visit.merchant.leads_of_perform visit.call session
      rw [shared visit List.mem_cons_self] at here
      obtain ⟨later, there⟩ :=
        ih (fun other among => shared other (List.mem_cons_of_mem visit among)) _
      exact ⟨first ++ later, here.trans there⟩

/-! ## An account to try things with -/

namespace Sample

/-- An account at an address that has no name. -/
def account : Account := ⟨"http://[::1]", ⟨⟨"id"⟩, ⟨"key"⟩⟩⟩

/-- A merchant with that account. -/
def merchant (mode : NotifyMode) : Merchant := ⟨account, "https://c/?", mode⟩

/-- A reply that grants a token until 2030. -/
def grant (token : String) : Reply :=
  .answered 200 (Bytes.ofString
    ("\x7b\"token\":\"" ++ token ++ "\",\"expires_at\":\"2030-01-01T00:00:00+0000\"\x7d"))

/-- An intent that is paid, as a document. -/
def paidIntent : Bytes :=
  Bytes.ofString
    ("\x7b\"id\":\"int\",\"status\":\"SUCCEEDED\",\"amount\":12.5,\"currency\":\"EUR\","
      ++ "\"latest_payment_attempt\":\x7b\"status\":\"PAID\"\x7d\x7d")

/-- A session of 2024 that remembers no token, before some replies. -/
def session (replies : List Reply) : Session Exchange :=
  ⟨none, 0, fun _ => 1704067200000000000, 0, ⟨replies, .closed, []⟩⟩

theorem representable_session (replies : List Reply) : (session replies).Representable := by
  intro reading
  have judged : (Instant.ofNanoseconds? (1704067200000000000 + 0)).isSome = true := by decide
  exact judged

end Sample

end HostedCheckout
