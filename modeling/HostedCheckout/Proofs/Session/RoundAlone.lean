import HostedCheckout.Merchant.Intents
import HostedCheckout.Proofs.Session.Alone
import HostedCheckout.Proofs.Session.Deeds

/-!
# A round on its own

A worker that makes a round while nobody else does anything leaves the session as a
call with a token does.
-/

namespace HostedCheckout

open Json

/-- A call for a document, as a worker makes it. -/
def Account.errand (account : Account) (kind : Kind) (method path : String)
    (document : Option Value) : Errand Exchange := fun token exchange =>
  let (answer, exchange) := account.callFor kind method path token document exchange
  (answer.map fun _ => (), exchange)

namespace Crew

variable {Worker Source : Type} [DecidableEq Worker] {grant : Grant Source}
  {crew final : Crew Worker Source} {worker : Worker}

/-- Steps that can be taken in a run can be taken in rounds, unless one is a complaint. -/
theorem exists_rounds_of_run {acts : List Act} (honest : .complain ∉ acts)
    (ran : crew.run grant (acts.map (worker, ·)) = some final) :
    ∃ notes, crew.rounds grant ((acts.map Deed.step).map (worker, ·)) = some (final, notes) := by
  induction acts generalizing crew with
  | nil =>
      cases ran
      exact ⟨[], rfl⟩
  | cons act rest ih =>
      obtain ⟨different, honestRest⟩ := not_or.mp (mt List.mem_cons.mpr honest)
      obtain ⟨after, advanced, went⟩ := run_cons_eq_some_iff.mp ran
      obtain ⟨later, laterRounds⟩ := ih honestRest went
      have proceeded : crew.proceed grant worker (.step act) = some after := by
        cases act with
        | complain => exact absurd rfl different
        | _ => exact advanced
      exact ⟨_, rounds_cons_eq_some_iff.mpr ⟨after, later, proceeded, laterRounds, rfl⟩⟩

section Exchanges

variable {crew : Crew Worker Exchange} (account : Account) (kind : Kind) (method path : String)
  (document : Option Value)

/-- A worker that has a token makes its call with it, and has it forgotten if it is
rejected. -/
theorem exists_rounds_of_call {token : String} (holding : crew.stage worker = .holding token)
    (free : crew.refresher = none) :
    ∃ (deeds : List (Deed Exchange)) (last : Crew Worker Exchange) (notes : List Note),
      crew.rounds account.grant (deeds.map (worker, ·)) = some (last, notes) ∧
      last.refresher = none ∧
      last.session = (Session.forgetRejected token
        (Session.ask (account.callFor kind method path token document)) crew.session).2 := by
  rcases called : account.callFor kind method path token document crew.session.source with
    ⟨answer, source⟩
  let after : Session Exchange := { crew.session with source := source }
  let stage : Stage := .afterCall token (answer.map fun _ => ())
  have made : crew.proceed account.grant worker
      (.call (account.errand kind method path document)) =
        some (shift { crew with session := after } worker stage) := by
    simp only [proceed, holding, Account.errand, called]
    rfl
  by_cases spurned : ∃ error, answer = .error error ∧ error.isUnauthorized = true
  · obtain ⟨error, rfl, unauthorized⟩ := spurned
    have complains : stage = .spurned token := by
      simp [stage, Stage.afterCall, Except.map, unauthorized]
    rw [complains] at made
    let last : Crew Worker Exchange :=
      (shift { crew with session := after } worker (.spurned token)).settle worker .gone
        ((Session.forget token : Operation Exchange GatewayError Unit) after).2
    have forgotten : (shift { crew with session := after } worker (.spurned token)).proceed
        account.grant worker (.step .forget) = some last := by
      simp [proceed, advance, shift, free, last]
    refine ⟨[.call _, .step .forget], last, _, rounds_cons_eq_some_iff.mpr ⟨_, _, made,
      rounds_cons_eq_some_iff.mpr ⟨_, _, forgotten, rfl, rfl⟩, rfl⟩, rfl, ?_⟩
    simp only [Session.forgetRejected, Session.ask, called, unauthorized, if_true]
    rfl
  · refine ⟨[.call _], _, _, rounds_cons_eq_some_iff.mpr ⟨_, _, made, rfl, rfl⟩, free, ?_⟩
    rcases answer with error | decoded
    · have kept : error.isUnauthorized = false := by simpa using spurned
      simp only [Session.forgetRejected, Session.ask, called, kept]
      rfl
    · simp only [Session.forgetRejected, Session.ask, called]
      rfl

/-- A worker that makes a round alone leaves the session as a call with a token does. -/
theorem exists_round_alone (arriving : crew.stage worker = .arriving)
    (free : crew.refresher = none) :
    ∃ (deeds : List (Deed Exchange)) (last : Crew Worker Exchange) (notes : List Note),
      crew.rounds account.grant (deeds.map (worker, ·)) = some (last, notes) ∧
      last.refresher = none ∧
      last.session = (account.callWithToken kind method path document crew.session).2 := by
  obtain ⟨acts, honest, ran⟩ := exists_run_alone account.grant arriving free
  obtain ⟨notes, obtains⟩ := exists_rounds_of_run honest ran
  unfold Account.callWithToken
  rcases obtained : crew.session.obtainToken account.grant with ⟨halt | token, middle⟩
  · rw [obtained] at obtains
    rw [Operation.bind_of_error obtained]
    exact ⟨acts.map .step, _, notes, obtains, rfl, rfl⟩
  · rw [obtained] at obtains
    rw [Operation.bind_of_ok obtained]
    have held : (crew.settle worker (.ofOutcome (.ok token)) middle).stage worker =
        .holding token := stage_settle ..
    obtain ⟨deeds, last, later, calls, freed, same⟩ :=
      exists_rounds_of_call account kind method path document held rfl
    refine ⟨acts.map .step ++ deeds, last, notes ++ later, ?_, freed, same⟩
    rw [List.map_append]
    exact rounds_append obtains calls

end Exchanges

end Crew

end HostedCheckout
