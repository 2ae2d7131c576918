import HostedCheckout.Proofs.Merchant.Performance

/-!
# Rejected tokens

A token that the gateway rejects is forgotten, and the next call then asks for
another one before anything else.  But a rejection is recognized by its body: a
reply with status 401 that is not JSON, or that breaks off, leaves the token where
it is, and the next call is made with it.
-/

namespace HostedCheckout

open Json

/-- A reply is a rejection exactly when it has status 401 and a body that is
whole and JSON. -/
theorem Reply.rejectsToken_iff {reply : Reply} :
    reply.rejectsToken = true ↔
      ∃ body value, reply = .answered 401 body ∧ Value.read body = .ok value := by
  constructor
  · intro rejects
    cases reply with
    | answered status body =>
        simp only [rejectsToken, whole?, Option.any_some, Bool.and_eq_true, beq_iff_eq] at rejects
        obtain ⟨rfl, json⟩ := rejects
        cases read : Value.read body with
        | ok value => exact ⟨body, value, rfl, read⟩
        | error error =>
            have unread : (Value.read body).isOk = true := json
            rw [read] at unread
            exact absurd unread Bool.false_ne_true
    | _ => exact absurd rejects Bool.false_ne_true
  · rintro ⟨body, value, rfl, read⟩
    have unshortened : hasNoBody 401 = false := rfl
    simp [rejectsToken, whole?, unshortened, read, Except.isOk, Except.toBool]

/-- Whether a token is the one that is remembered. -/
def Session.holds {Source : Type} (session : Session Source) (token : String) : Bool :=
  session.token.any (·.secret.expose == token)

namespace Account

variable {account : Account} {demand : Demand} {session : Session Exchange} {turns : List Turn}
  {result : Except (Halt GatewayError) demand.kind.Carrier × Session Exchange}

/-- Whatever carries a token comes after a request for one. -/
def AsksFirst (account : Account) (turns : List Turn) : Prop :=
  ∀ before turn later, turns = before ++ turn :: later →
    (∃ token, turn.request.carries token = true) →
    ∃ earlier ∈ before, account.asks earlier.request = true

/-- Of what a demand sends, only the call itself carries a token.  It is what is
remembered afterwards, unless the reply is a rejection. -/
theorem Meets.token_eq (meets : account.Meets demand session turns result) {turn : Turn}
    {token : String} (among : turn ∈ turns) (carried : turn.request.carries token = true) :
    ∃ held, held.secret.expose = token ∧
      result.2.token = if turn.reply.rejectsToken then none else some held := by
  cases meets with
  | halted fetches =>
      rw [carries_of_asks (fetches.asks turn among).1] at carried
      exact absurd carried Bool.false_ne_true
  | called fetches calls =>
      rcases List.mem_append.mp among with fetched | called
      · rw [carries_of_asks (fetches.asks turn fetched).1] at carried
        exact absurd carried Bool.false_ne_true
      · obtain ⟨held, remembers, rfl⟩ := fetches.held
        obtain rfl := (calls.carries turn called token).mp carried
        refine ⟨held, rfl, ?_⟩
        cases calls with
        | unsent => exact absurd called List.not_mem_nil
        | answered _ read _ =>
            obtain rfl := List.mem_singleton.mp called
            simp [remembers, Exchange.turn, Reply.rejectsToken_of_value? read]
        | failed _ kept =>
            obtain rfl := List.mem_singleton.mp called
            simp [remembers, Exchange.turn, kept]
        | rejected _ spurned =>
            obtain rfl := List.mem_singleton.mp called
            simp [remembers, Exchange.turn, spurned]

/-- A demand that begins with nothing remembered asks for a token first. -/
theorem Meets.asksFirst (meets : account.Meets demand session turns result)
    (empty : session.token = none) : account.AsksFirst turns := by
  rintro before turn later occurs ⟨token, carried⟩
  cases meets with
  | halted fetches =>
      have among : turn ∈ turns := by simp [occurs]
      rw [carries_of_asks (fetches.asks turn among).1] at carried
      exact absurd carried Bool.false_ne_true
  | called fetches calls =>
      cases fetches with
      | remembered held _ _ =>
          rw [empty] at held
          exact absurd held (Option.some_ne_none _).symm
      | granted _ drafted _ =>
          have asked := asks_of_prepared drafted
          cases before with
          | nil =>
              obtain rfl := (List.cons.inj occurs).1
              rw [Exchange.turn, carries_of_asks asked] at carried
              exact absurd carried Bool.false_ne_true
          | cons first between =>
              obtain rfl := (List.cons.inj occurs).1
              exact ⟨_, List.mem_cons_self, asked⟩

end Account

theorem Sample.turns_session (replies : List Reply) : (session replies).source.turns = [] := rfl

/-- What a query leaves of a session that remembered nothing: the gateway grants a
token, replies to the call, and would show an intent to the next one. -/
def Sample.queried (reply : Reply) : Session Exchange :=
  ((Sample.merchant .requery).perform (.query "int")
    (Sample.session [Sample.grant "t", reply, .answered 200 Sample.paidIntent])).2

namespace Merchant

variable {merchant : Merchant} {call : Call} {session : Session Exchange} {turns : List Turn}

/-- The turns of a call are those of meeting its demand. -/
theorem meets_of_taken
    (taken : (merchant.perform call session).2.source.turns = session.source.turns ++ turns) :
    turns = [] ∨ ∃ demand, merchant.demand? call = some demand ∧
      merchant.account.Meets demand session turns (merchant.account.meet demand session) := by
  cases demanded : merchant.demand? call with
  | none =>
      rw [perform_of_no_demand demanded] at taken
      exact .inl (by simpa using taken)
  | some demand =>
      obtain ⟨met, meets⟩ := merchant.account.meets_meet demand session
      rw [perform_of_demand demanded, meets.leads.turns_eq] at taken
      obtain rfl := List.append_cancel_left taken
      exact .inr ⟨demand, rfl, meets⟩

/-- A token that a call carried is forgotten exactly when the reply has status 401
and a body that is whole and JSON.  Then nothing is remembered, and the next call
of the account asks for a token first. -/
theorem forgets_iff_rejected
    (taken : (merchant.perform call session).2.source.turns = session.source.turns ++ turns)
    {turn : Turn} {token : String} (among : turn ∈ turns)
    (carried : turn.request.carries token = true) :
    ((merchant.perform call session).2.holds token = false ↔
      ∃ body value, turn.reply = .answered 401 body ∧ Value.read body = .ok value) ∧
    ((merchant.perform call session).2.holds token = false →
      (merchant.perform call session).2.token = none ∧
      ∀ (other : Merchant) (next : Call) (added : List Turn), other.account = merchant.account →
        (other.perform next (merchant.perform call session).2).2.source.turns =
          (merchant.perform call session).2.source.turns ++ added →
        merchant.account.AsksFirst added) := by
  rcases meets_of_taken taken with rfl | ⟨demand, demanded, meets⟩
  · exact absurd among List.not_mem_nil
  · obtain ⟨held, rfl, remembers⟩ := meets.token_eq among carried
    rw [perform_of_demand demanded, ← Reply.rejectsToken_iff]
    have forgets : (merchant.account.meet demand session).2.holds held.secret.expose = false ↔
        turn.reply.rejectsToken = true := by
      cases rejects : turn.reply.rejectsToken <;> simp [Session.holds, remembers, rejects]
    refine ⟨forgets, fun forgotten => ?_⟩
    have empty : (merchant.account.meet demand session).2.token = none := by
      simp [remembers, forgets.mp forgotten]
    refine ⟨empty, fun other next added same went => ?_⟩
    rw [← same]
    rcases meets_of_taken went with rfl | ⟨later, -, asks⟩
    · rintro before turn later occurs
      simp at occurs
    · exact asks.asksFirst empty

/-- A rejection in JSON: the token is forgotten, and so on. -/
theorem forgets_rejected_document :
    ∃ turn ∈ (Sample.queried (.answered 401 Sample.paidIntent)).source.turns,
      turn.request.carries "t" = true ∧
      ((Sample.queried (.answered 401 Sample.paidIntent)).holds "t" = false ↔
        ∃ body value, turn.reply = .answered 401 body ∧ Value.read body = .ok value) ∧
      ((Sample.queried (.answered 401 Sample.paidIntent)).holds "t" = false →
        (Sample.queried (.answered 401 Sample.paidIntent)).token = none ∧
        ∀ (other : Merchant) (next : Call) (added : List Turn), other.account = Sample.account →
          (other.perform next (Sample.queried (.answered 401 Sample.paidIntent))).2.source.turns =
            (Sample.queried (.answered 401 Sample.paidIntent)).source.turns ++ added →
          Sample.account.AsksFirst added) := by
  have sent : ∃ turn ∈ (Sample.queried (.answered 401 Sample.paidIntent)).source.turns,
      turn.request.carries "t" = true := by
    decide +kernel
  obtain ⟨turn, among, carried⟩ := sent
  refine ⟨turn, among, carried, ?_⟩
  have taken : (Sample.queried (.answered 401 Sample.paidIntent)).source.turns =
      (Sample.session [Sample.grant "t", .answered 401 Sample.paidIntent,
        .answered 200 Sample.paidIntent]).source.turns ++
        (Sample.queried (.answered 401 Sample.paidIntent)).source.turns := by
    rw [Sample.turns_session, List.nil_append]
  rw [Sample.queried] at taken among ⊢
  exact forgets_iff_rejected taken among carried

/-- A rejection in another format: the token that was rejected is remembered, and
the next query is made with it. -/
theorem keeps_token_rejected_in_html :
    (Sample.queried (.answered 401 (Bytes.ofString "<html>"))).holds "t" = true ∧
      ((Sample.merchant .requery).perform (.query "int")
          (Sample.queried (.answered 401 (Bytes.ofString "<html>")))).2.source.turns.map
            (fun turn => (turn.request.carries "t", turn.reply.status?)) =
        [(false, some 200), (true, some 401), (true, some 200)] := by
  decide +kernel

end Merchant

end HostedCheckout
