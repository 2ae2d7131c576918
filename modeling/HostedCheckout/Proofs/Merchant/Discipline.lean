import HostedCheckout.Proofs.Merchant.Performance

/-!
# Token discipline

Over a run of any number of calls, which may be made to several merchants of one
account, what is remembered can be told from the turns alone: the token that was
granted last, unless it has been rejected since.  That token is the only one that
is ever carried, and another is asked for exactly when it cannot be used.
-/

namespace HostedCheckout

namespace Account

/-- A session that keeps to the tokens of an account, after some turns that
began with nothing remembered. -/
structure Disciplined (account : Account) (turns : List Turn) (session : Session Exchange) :
    Prop where
  /-- What is remembered is what the turns say. -/
  remembers : session.token = account.remembered turns
  /-- The expiry of what is remembered is the one that was written. -/
  expires : ∀ held, session.token = some held →
    AccessToken.parseExpiry held.rawExpiry = .ok held.expiresAt
  /-- Whatever did not ask for a token carried the one that was granted last. -/
  carries : ∀ before turn after, turns = before ++ turn :: after →
    account.asks turn.request = true ∨
      ∃ granted since, account.lastGrant? before = some (granted, since) ∧
        ∀ token, turn.request.carries token = true ↔ token = granted.secret.expose
  /-- A call that needs the gateway asks for a token, if that request can be
  prepared, exactly when both looks at what is remembered are in vain.  While the
  clock does not go back, the first of them decides. -/
  asks : ∀ (merchant : Merchant) (call : Call) (demand : Demand) (draft : Draft),
    merchant.account = account → merchant.demand? call = some demand →
    account.grantDraft = .ok draft →
    ∃ added,
      (merchant.perform call session).2.source.turns = session.source.turns ++ added ∧
      ((∃ turn ∈ added, turn.request = draft.request) ↔ session.lacksUsable) ∧
      (session.clock session.readings ≤ session.clock (session.readings + 1) →
        ((∃ turn ∈ added, turn.request = draft.request) ↔
          session.holdsUsable session.readings = false))

/-- What was granted last expires when the grant said. -/
theorem parseExpiry_of_lastGrant? {account : Account} {turns since : List Turn}
    {granted : AccessToken} (found : account.lastGrant? turns = some (granted, since)) :
    AccessToken.parseExpiry granted.rawExpiry = .ok granted.expiresAt := by
  induction turns with
  | nil => exact absurd found (Option.some_ne_none _).symm
  | cons turn later ih =>
      unfold lastGrant? at found
      cases latest : account.lastGrant? later with
      | some grant =>
          rw [latest] at found
          cases found
          exact ih latest
      | none =>
          rw [latest, Option.none_or] at found
          split at found
          · obtain ⟨token, grants, same⟩ := Option.map_eq_some_iff.mp found
            cases same
            obtain ⟨_, _, _, _, _, _, parsed⟩ := Reply.granted?_eq_some_iff.mp grants
            exact parsed
          · exact absurd found (Option.some_ne_none _).symm

/-- Turns that lead from nothing remembered leave a disciplined session. -/
theorem Leads.disciplined {account : Account} {turns : List Turn}
    {session after : Session Exchange} (leads : account.Leads turns session after)
    (fresh : session.token = none) (representable : session.Representable) :
    account.Disciplined turns after := by
  have history : account.History none turns after.token := by
    rw [← fresh]
    exact leads.history
  have reachable : after.Representable := leads.representable representable
  constructor
  case remembers => exact history.eq_remembered
  case expires =>
      intro held remembers
      rw [history.eq_remembered] at remembers
      obtain ⟨since, found⟩ := lastGrant?_of_remembered remembers
      exact parseExpiry_of_lastGrant? found
  case carries =>
      intro before turn later occurs
      exact history.asks_or_carries occurs
  case asks =>
      rintro merchant call demand draft rfl demanded prepared
      obtain ⟨added, meets⟩ := merchant.account.meets_meet demand after
      have asks : (∃ turn ∈ added, turn.request = draft.request) ↔ after.lacksUsable := by
        simpa only [asks_iff prepared] using meets.asks_iff prepared reachable
      rw [Merchant.perform_of_demand demanded]
      refine ⟨added, meets.leads.turns_eq, asks, ?_⟩
      intro steady
      exact asks.trans (Session.lacksUsable_iff reachable steady)

end Account

/-- Over every run of one account that begins with nothing remembered, the
session keeps to the tokens of the account. -/
theorem Session.disciplined_of_serve {account : Account} {visits : List Visit}
    (shared : ∀ visit ∈ visits, visit.merchant.account = account)
    {session : Session Exchange} (fresh : session.token = none)
    (representable : session.Representable) :
    ∃ turns, (session.serve visits).2.source.turns = session.source.turns ++ turns ∧
      account.Disciplined turns (session.serve visits).2 := by
  obtain ⟨turns, leads⟩ := session.leads_of_serve visits shared
  exact ⟨turns, leads.turns_eq, leads.disciplined fresh representable⟩

/-- Calls to two merchants of one account, which share a session: the token of the
first call is rejected. -/
def Sample.visits : List Visit :=
  [⟨Sample.merchant .requery, .query "int"⟩, ⟨Sample.merchant .trustPayload, .query "int"⟩]

/-- What is left after them. -/
def Sample.visited : Session Exchange :=
  ((Sample.session [Sample.grant "t", .answered 401 Sample.paidIntent, Sample.grant "u",
    .answered 200 Sample.paidIntent]).serve Sample.visits).2

/-- The second call is made with another token, which is remembered. -/
theorem Session.disciplined_of_rejection :
    Sample.visited.token.map (·.secret.expose) = some "u" ∧
      ∃ turns, Sample.visited.source.turns = [] ++ turns ∧
        Sample.account.Disciplined turns Sample.visited := by
  refine ⟨by decide +kernel, ?_⟩
  have shared : ∀ visit ∈ Sample.visits, visit.merchant.account = Sample.account := by
    intro visit among
    simp only [Sample.visits, List.mem_cons, List.not_mem_nil, or_false] at among
    rcases among with rfl | rfl <;> rfl
  rw [Sample.visited]
  exact disciplined_of_serve shared rfl (Sample.representable_session _)

end HostedCheckout
