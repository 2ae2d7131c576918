import HostedCheckout.Merchant.Call
import HostedCheckout.Proofs.Gateway.Histories
import HostedCheckout.Proofs.Session.Looks

/-!
# Meeting a demand

A demand is met in two parts: a token is fetched, and the gateway is called
with it.  Each part takes at most one turn.  How each ends is one rule for each
way, and whatever is done to the line and the remembered token is derived from
the rules: the turns of a demand go on with the history of the account.
-/

namespace HostedCheckout

open Json

theorem Session.forgetRejected_fst {Source Result : Type} (token : String)
    (call : Operation Source GatewayError Result) (session : Session Source) :
    (Session.forgetRejected token call session).1 = (call session).1 := by
  unfold forgetRejected
  rcases call session with ⟨(error | _) | result, after⟩
  · dsimp only
    split <;> rfl
  · rfl
  · rfl

namespace Account

variable {account : Account}

/-- Ask for a token, and for the demanded document with it. -/
def meet (account : Account) (demand : Demand) :
    Operation Exchange GatewayError demand.kind.Carrier :=
  account.callWithToken demand.kind demand.method demand.path demand.document

/-- The request for a demanded document. -/
def demandDraft (account : Account) (demand : Demand) (token : String) :
    Except TransportFault Draft :=
  account.callDraft demand.method demand.path token demand.document

/-! ## Fetching a token -/

/-- How fetching a token ends, and in which turns. -/
inductive Fetches (account : Account) (session : Session Exchange) :
    List Turn → Except (Halt GatewayError) String × Session Exchange → Prop
  | unreadable {reading readings : Nat} : session.judgedAt reading = none →
      Fetches account session [] (.error .clockOutOfRange, { session with readings })
  | remembered {token : AccessToken} {reading : Nat} : session.token = some token →
      reading = session.readings ∨ reading = session.readings + 1 →
      session.accepts token reading = true →
      Fetches account session []
        (.ok token.secret.expose, { session with readings := reading + 1 })
  | unsent {fault : TransportFault} {error : GatewayError} {readings : Nat} :
      session.lacksUsable → account.grantDraft = .error fault →
      Fetches account session [] (.error (.failed error), { session with readings })
  | refused {draft : Draft} {error : GatewayError} {readings : Nat} :
      session.lacksUsable → account.grantDraft = .ok draft →
      session.source.next.1.granted? = none →
      Fetches account session [session.source.turn draft]
        (.error (.failed error),
          { session with readings, source := (session.source.send draft).2 })
  | granted {draft : Draft} {token : AccessToken} {readings : Nat} :
      session.lacksUsable → account.grantDraft = .ok draft →
      session.source.next.1.granted? = some token →
      Fetches account session [session.source.turn draft]
        (.ok token.secret.expose,
          { session with
            token := some token
            readings
            source := (session.source.send draft).2 })

theorem fetches_obtainToken (account : Account) (session : Session Exchange) :
    ∃ turns, account.Fetches session turns (session.obtainToken account.grant) := by
  have obtained := session.obtains_obtainToken account.grant
  generalize session.obtainToken account.grant = result at obtained
  cases obtained with
  | unreadable unjudged => exact ⟨[], .unreadable unjudged⟩
  | remembered held reading accepted => exact ⟨[], .remembered held reading accepted⟩
  | @refused error source readings lacks asked =>
      cases drafted : account.grantDraft with
      | error fault =>
          rw [grant_of_unprepared drafted] at asked
          cases asked
          exact ⟨[], .unsent lacks drafted⟩
      | ok draft =>
          obtain ⟨rfl, answered⟩ := grant_of_prepared drafted asked
          exact ⟨_, .refused lacks drafted answered.symm⟩
  | @granted token source readings lacks asked =>
      cases drafted : account.grantDraft with
      | error fault =>
          rw [grant_of_unprepared drafted] at asked
          cases asked
      | ok draft =>
          obtain ⟨rfl, answered⟩ := grant_of_prepared drafted asked
          exact ⟨_, .granted lacks drafted answered.symm⟩

/-! ## Calling with a token -/

/-- How a call with a token ends, and in which turns.  The token is forgotten
only if it is rejected. -/
inductive Calls (account : Account) (demand : Demand) (token : String)
    (session : Session Exchange) :
    List Turn → Except (Halt GatewayError) demand.kind.Carrier × Session Exchange → Prop
  | unsent {fault : TransportFault} : account.demandDraft demand token = .error fault →
      Calls account demand token session [] (.error (.failed (.transport fault)), session)
  | answered {draft : Draft} {value : Value} {document : demand.kind.Carrier} :
      account.demandDraft demand token = .ok draft →
      session.source.next.1.value? = some value → demand.kind.ofValue value = .ok document →
      Calls account demand token session [session.source.turn draft]
        (.ok document, { session with source := (session.source.send draft).2 })
  | failed {draft : Draft} {error : GatewayError} :
      account.demandDraft demand token = .ok draft →
      session.source.next.1.rejectsToken = false →
      Calls account demand token session [session.source.turn draft]
        (.error (.failed error), { session with source := (session.source.send draft).2 })
  | rejected {draft : Draft} {error : GatewayError} :
      account.demandDraft demand token = .ok draft →
      session.source.next.1.rejectsToken = true →
      Calls account demand token session [session.source.turn draft]
        (.error (.failed error),
          { session with
            token := session.token.filter (·.secret.expose != token)
            source := (session.source.send draft).2 })

theorem calls_forgetRejected (demand : Demand) (token : String) (session : Session Exchange) :
    ∃ turns, account.Calls demand token session turns
      (Session.forgetRejected token
        (Session.ask (account.callFor demand.kind demand.method demand.path token
          demand.document)) session) := by
  cases drafted : account.demandDraft demand token with
  | error fault =>
      have unsent : account.callFor demand.kind demand.method demand.path token demand.document
          session.source = (.error (.transport fault), session.source) :=
        callFor_of_unprepared drafted
      simp only [Session.forgetRejected, Session.ask, unsent, GatewayError.isUnauthorized,
        Bool.false_eq_true, if_false]
      exact ⟨[], .unsent drafted⟩
  | ok draft =>
      have sent : (account.callFor demand.kind demand.method demand.path token demand.document
          session.source).2 = (session.source.send draft).2 := callFor_snd drafted
      have rejects : (∃ error, (account.callFor demand.kind demand.method demand.path token
          demand.document session.source).1 = .error error ∧ error.isUnauthorized = true) ↔
            session.source.next.1.rejectsToken = true := callFor_unauthorized_iff drafted
      refine ⟨[session.source.turn draft], ?_⟩
      simp only [Session.forgetRejected, Session.ask, sent]
      cases outcome : (account.callFor demand.kind demand.method demand.path token
          demand.document session.source).1 with
      | ok document =>
          obtain ⟨value, read, decoded⟩ := (callFor_eq_ok_iff drafted).mp outcome
          exact .answered drafted read decoded
      | error error =>
          by_cases unauthorized : error.isUnauthorized = true
          · have rejected := rejects.mp ⟨error, outcome, unauthorized⟩
            simp only [unauthorized, if_true, Session.forget_snd]
            exact .rejected drafted rejected
          · have kept : session.source.next.1.rejectsToken = false := by
              rw [Bool.eq_false_iff, ne_eq, ← rejects, outcome]
              simpa using unauthorized
            simp only [unauthorized]
            exact .failed drafted kept

/-! ## Meeting a demand -/

/-- How meeting a demand ends, and in which turns: those of fetching a token, and
then those of the call with it. -/
inductive Meets (account : Account) (demand : Demand) (session : Session Exchange) :
    List Turn → Except (Halt GatewayError) demand.kind.Carrier × Session Exchange → Prop
  | halted {fetched : List Turn} {halt : Halt GatewayError} {after : Session Exchange} :
      account.Fetches session fetched (.error halt, after) →
      Meets account demand session fetched (.error halt, after)
  | called {fetched called : List Turn} {token : String} {middle : Session Exchange}
      {result : Except (Halt GatewayError) demand.kind.Carrier × Session Exchange} :
      account.Fetches session fetched (.ok token, middle) →
      account.Calls demand token middle called result →
      Meets account demand session (fetched ++ called) result

theorem meets_meet (account : Account) (demand : Demand) (session : Session Exchange) :
    ∃ turns, account.Meets demand session turns (account.meet demand session) := by
  obtain ⟨fetched, fetches⟩ := account.fetches_obtainToken session
  unfold meet callWithToken
  generalize obtained : session.obtainToken account.grant = result at fetches
  rcases result with ⟨halt | token, middle⟩
  · rw [Operation.bind_of_error obtained]
    exact ⟨fetched, .halted fetches⟩
  · rw [Operation.bind_of_ok obtained]
    obtain ⟨called, calls⟩ := calls_forgetRejected demand token middle
    exact ⟨fetched ++ called, .called fetches calls⟩

/-- A token that has been fetched is remembered. -/
theorem Fetches.held {session after : Session Exchange} {turns : List Turn} {token : String}
    (fetches : account.Fetches session turns (.ok token, after)) :
    ∃ held, after.token = some held ∧ held.secret.expose = token := by
  cases fetches with
  | remembered held _ _ => exact ⟨_, held, rfl⟩
  | granted _ _ _ => exact ⟨_, rfl, rfl⟩

/-- Turns that lead from one session to another: they come after the earlier
turns, and what was remembered has become, in them, what is remembered. -/
structure Leads (account : Account) (turns : List Turn) (session after : Session Exchange) :
    Prop where
  turns_eq : after.source.turns = session.source.turns ++ turns
  history : account.History session.token turns after.token
  clock_eq : after.clock = session.clock
  margin_eq : after.margin = session.margin

namespace Leads

variable {session middle after : Session Exchange} {turns first second : List Turn}

theorem refl (session : Session Exchange) : account.Leads [] session session :=
  ⟨(List.append_nil _).symm, .begun, rfl, rfl⟩

theorem trans (here : account.Leads first session middle)
    (there : account.Leads second middle after) :
    account.Leads (first ++ second) session after where
  turns_eq := by rw [there.turns_eq, here.turns_eq, List.append_assoc]
  history := here.history.trans there.history
  clock_eq := there.clock_eq.trans here.clock_eq
  margin_eq := there.margin_eq.trans here.margin_eq

theorem representable (leads : account.Leads turns session after)
    (representable : session.Representable) : after.Representable := by
  intro reading
  unfold Session.judgedAt
  rw [leads.clock_eq, leads.margin_eq]
  exact representable reading

end Leads

theorem Fetches.leads {session : Session Exchange} {turns : List Turn}
    {result : Except (Halt GatewayError) String × Session Exchange}
    (fetches : account.Fetches session turns result) : account.Leads turns session result.2 := by
  cases fetches with
  | unreadable => exact ⟨(List.append_nil _).symm, .begun, rfl, rfl⟩
  | remembered => exact ⟨(List.append_nil _).symm, .begun, rfl, rfl⟩
  | unsent => exact ⟨(List.append_nil _).symm, .begun, rfl, rfl⟩
  | @refused draft _ _ _ drafted nothing =>
      have history : account.History session.token ([] ++ [session.source.turn draft])
          session.token := .refused .begun (asks_of_prepared drafted) nothing
      exact ⟨rfl, history, rfl, rfl⟩
  | @granted draft token _ _ drafted grants =>
      have history : account.History session.token ([] ++ [session.source.turn draft])
          (some token) := .granted .begun (asks_of_prepared drafted) grants
      exact ⟨rfl, history, rfl, rfl⟩

theorem Calls.leads {demand : Demand} {session : Session Exchange} {turns : List Turn}
    {result : Except (Halt GatewayError) demand.kind.Carrier × Session Exchange}
    {held : AccessToken} (calls : account.Calls demand held.secret.expose session turns result)
    (remembers : session.token = some held) : account.Leads turns session result.2 := by
  -- What is sent is prepared with the remembered token, so it carries just that one.
  have carries {draft : Draft}
      (drafted : account.demandDraft demand held.secret.expose = .ok draft) (other : String) :
      draft.request.carries other = true ↔ other = held.secret.expose :=
    carries_callDraft drafted other
  have accepted {draft : Draft}
      (drafted : account.demandDraft demand held.secret.expose = .ok draft)
      (kept : session.source.next.1.rejectsToken = false) :
      account.History session.token ([] ++ [session.source.turn draft]) session.token := by
    rw [remembers]
    exact .accepted .begun (carries drafted) kept
  cases calls with
  | unsent => exact Leads.refl session
  | answered drafted read _ =>
      exact ⟨rfl, accepted drafted (Reply.rejectsToken_of_value? read), rfl, rfl⟩
  | failed drafted kept => exact ⟨rfl, accepted drafted kept, rfl, rfl⟩
  | @rejected draft _ drafted spurned =>
      have forgotten : session.token.filter (·.secret.expose != held.secret.expose) = none := by
        simp [remembers]
      have history : account.History session.token ([] ++ [session.source.turn draft])
          (session.token.filter (·.secret.expose != held.secret.expose)) := by
        rw [forgotten, remembers]
        exact .rejected .begun (carries drafted) spurned
      exact ⟨rfl, history, rfl, rfl⟩

/-- The turns of a demand lead to what is left of the session. -/
theorem Meets.leads {demand : Demand} {session : Session Exchange} {turns : List Turn}
    {result : Except (Halt GatewayError) demand.kind.Carrier × Session Exchange}
    (meets : account.Meets demand session turns result) :
    account.Leads turns session result.2 := by
  cases meets with
  | halted fetches => exact fetches.leads
  | called fetches calls =>
      obtain ⟨held, remembers, rfl⟩ := fetches.held
      exact fetches.leads.trans (calls.leads remembers)

/-! ## Which turns are taken -/

/-- A token is asked for only when neither look finds one. -/
theorem Fetches.asks {session : Session Exchange} {turns : List Turn}
    {result : Except (Halt GatewayError) String × Session Exchange}
    (fetches : account.Fetches session turns result) :
    ∀ turn ∈ turns, account.asks turn.request = true ∧ session.lacksUsable := by
  intro turn among
  cases fetches with
  | unreadable | remembered | unsent => exact absurd among List.not_mem_nil
  | refused lacks drafted _ | granted lacks drafted _ =>
      obtain rfl := List.mem_singleton.mp among
      exact ⟨asks_of_prepared drafted, lacks⟩

/-- A call is made with the token it was given. -/
theorem Calls.carries {demand : Demand} {token : String} {session : Session Exchange}
    {turns : List Turn} {result : Except (Halt GatewayError) demand.kind.Carrier × Session Exchange}
    (calls : account.Calls demand token session turns result) :
    ∀ turn ∈ turns, ∀ other, turn.request.carries other = true ↔ other = token := by
  intro turn among
  cases calls with
  | unsent => exact absurd among List.not_mem_nil
  | answered drafted _ _ | failed drafted _ | rejected drafted _ =>
      obtain rfl := List.mem_singleton.mp among
      exact carries_callDraft drafted

/-- Nothing but the request for a token, or a clock out of range, keeps one from
being asked for when neither look finds one. -/
theorem Fetches.exists_asks {draft : Draft} (prepared : account.grantDraft = .ok draft)
    {session : Session Exchange} (representable : session.Representable)
    (lacks : session.lacksUsable) {turns : List Turn}
    {result : Except (Halt GatewayError) String × Session Exchange}
    (fetches : account.Fetches session turns result) :
    ∃ turn ∈ turns, account.asks turn.request = true := by
  cases fetches with
  | @unreadable reading _ unjudged =>
      have judged := representable reading
      rw [unjudged] at judged
      exact absurd judged Bool.false_ne_true
  | @remembered token reading held looked accepted =>
      have found : session.holdsUsable reading = true := by
        simp [Session.holdsUsable, held, accepted]
      rcases looked with rfl | rfl
      · rw [lacks.1] at found
        exact absurd found Bool.false_ne_true
      · rw [lacks.2] at found
        exact absurd found Bool.false_ne_true
  | unsent _ unprepared =>
      rw [prepared] at unprepared
      cases unprepared
  | refused _ drafted _ | granted _ drafted _ =>
      exact ⟨_, List.mem_cons_self, asks_of_prepared drafted⟩

/-- A demand asks for a token exactly when neither look finds one. -/
theorem Meets.asks_iff {draft : Draft} (prepared : account.grantDraft = .ok draft)
    {session : Session Exchange} (representable : session.Representable) {demand : Demand}
    {turns : List Turn} {result : Except (Halt GatewayError) demand.kind.Carrier × Session Exchange}
    (meets : account.Meets demand session turns result) :
    (∃ turn ∈ turns, account.asks turn.request = true) ↔ session.lacksUsable := by
  cases meets with
  | halted fetches =>
      constructor
      · rintro ⟨turn, among, -⟩
        exact (fetches.asks turn among).2
      · intro lacks
        exact fetches.exists_asks prepared representable lacks
  | called fetches calls =>
      constructor
      · rintro ⟨turn, among, asked⟩
        rcases List.mem_append.mp among with fetched | called
        · exact (fetches.asks turn fetched).2
        · have carried := (calls.carries turn called _).mpr rfl
          rw [carries_of_asks asked] at carried
          exact absurd carried Bool.false_ne_true
      · intro lacks
        obtain ⟨turn, fetched, asked⟩ := fetches.exists_asks prepared representable lacks
        exact ⟨turn, List.mem_append_left _ fetched, asked⟩

/-! ## Answers -/

section Answers

variable {demand : Demand} {session : Session Exchange} {turns : List Turn} {turn : Turn}

/-- The turn of a call is the one that its request takes. -/
theorem Calls.turn_eq {token : String}
    {result : Except (Halt GatewayError) demand.kind.Carrier × Session Exchange}
    (calls : account.Calls demand token session turns result)
    (among : turn ∈ turns) :
    ∃ draft, account.demandDraft demand token = .ok draft ∧ turn = session.source.turn draft := by
  cases calls with
  | unsent => exact absurd among List.not_mem_nil
  | answered drafted _ _ | failed drafted _ | rejected drafted _ =>
      exact ⟨_, drafted, List.mem_singleton.mp among⟩

/-- A request that carries a token is the one for the demanded document. -/
theorem Meets.exists_draft
    {result : Except (Halt GatewayError) demand.kind.Carrier × Session Exchange}
    (meets : account.Meets demand session turns result) (among : turn ∈ turns) {token : String}
    (carried : turn.request.carries token = true) :
    ∃ held draft, account.demandDraft demand held = .ok draft ∧ turn.request = draft.request := by
  cases meets with
  | halted fetches =>
      rw [carries_of_asks (fetches.asks turn among).1] at carried
      exact absurd carried Bool.false_ne_true
  | @called _ _ held _ _ fetches calls =>
      rcases List.mem_append.mp among with fetched | called
      · rw [carries_of_asks (fetches.asks turn fetched).1] at carried
        exact absurd carried Bool.false_ne_true
      · obtain ⟨draft, drafted, rfl⟩ := calls.turn_eq called
        exact ⟨held, draft, drafted, rfl⟩

/-- A demand that is answered with its document ends with it. -/
theorem meet_of_answered
    (taken : (account.meet demand session).2.source.turns = session.source.turns ++ turns)
    {token : String} (among : turn ∈ turns)
    (carried : turn.request.carries token = true) {value : Value}
    (shown : turn.reply.value? = some value) {document : demand.kind.Carrier}
    (decoded : demand.kind.ofValue value = .ok document) :
    (account.meet demand session).1 = .ok document := by
  obtain ⟨fetched, fetches⟩ := account.fetches_obtainToken session
  have uncarried : turn ∉ fetched := by
    intro fetching
    rw [carries_of_asks (fetches.asks turn fetching).1] at carried
    exact absurd carried Bool.false_ne_true
  unfold meet callWithToken at taken ⊢
  rcases obtained : session.obtainToken account.grant with ⟨halt | held, middle⟩
  · rw [obtained] at fetches
    rw [Operation.bind_of_error obtained, fetches.leads.turns_eq] at taken
    obtain rfl := List.append_cancel_left taken
    exact absurd among uncarried
  · rw [obtained] at fetches
    rw [Operation.bind_of_ok obtained] at taken ⊢
    obtain ⟨called, calls⟩ := calls_forgetRejected demand held middle
    rw [(Meets.called fetches calls).leads.turns_eq] at taken
    obtain rfl := List.append_cancel_left taken
    have calling : turn ∈ called := (List.mem_append.mp among).resolve_left uncarried
    obtain ⟨draft, drafted, rfl⟩ := calls.turn_eq calling
    rw [Session.forgetRejected_fst]
    have answered : (account.callFor demand.kind demand.method demand.path held demand.document
        middle.source).1 = .ok document := (callFor_eq_ok_iff drafted).mpr ⟨value, shown, decoded⟩
    simp only [Session.ask, answered]

end Answers

end Account

end HostedCheckout
