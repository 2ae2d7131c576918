import HostedCheckout.Proofs.Session.Steps

/-!
# Workers one after another

The steps of a worker are those of obtaining a token.  When nobody else does
anything in between, the worker ends with what obtaining a token comes to, and so
does the session.  Workers that come one after another end like callers that queue.
-/

namespace HostedCheckout

variable {Worker Source : Type} [DecidableEq Worker] {grant : Grant Source}

/-- The stage of a worker that is done with obtaining a token. -/
def Stage.ofOutcome : Except (Halt GatewayError) String → Stage
  | .ok token => holding token
  | .error halt => failed halt

theorem Stage.isInside_ofOutcome (outcome : Except (Halt GatewayError) String) :
    (Stage.ofOutcome outcome).isInside = false := by
  cases outcome <;> rfl

theorem Session.obtainTokens_succ (grant : Grant Source) (count : Nat) (session : Session Source) :
    Session.obtainTokens grant (count + 1) session =
      ((session.obtainToken grant).1 ::
          (Session.obtainTokens grant count (session.obtainToken grant).2).1,
        (Session.obtainTokens grant count (session.obtainToken grant).2).2) := by
  simp only [obtainTokens, List.replicate_succ, List.mapM_cons]
  rfl

namespace Crew

variable {crew : Crew Worker Source} {worker : Worker}

section Settle

variable (crew : Crew Worker Source) (worker : Worker) (stage later : Stage)
  (session after : Session Source)

@[simp] theorem settle_settle : (crew.settle worker stage session).settle worker later after =
    crew.settle worker later after := by
  simp [settle]

@[simp] theorem stage_settle : (crew.settle worker stage session).stage worker = stage := by
  simp [settle]

@[simp] theorem session_settle : (crew.settle worker stage session).session = session := rfl

@[simp] theorem refresher_settle : (crew.settle worker stage session).refresher =
    if stage.isInside then some worker else none := rfl

end Settle

/-- How a worker goes on that has the right to refresh, when nobody else does anything. -/
theorem exists_run_entered {session : Session Source}
    {outcome : Except (Halt GatewayError) String × Session Source}
    (left : (do
      match ← Session.usableToken? with
      | some token => return token.secret.expose
      | none => return (← Session.refresh grant).secret.expose :
        Operation Source GatewayError String) session = outcome) :
    ∃ acts : List Act, .complain ∉ acts ∧
      (crew.settle worker .entered session).run grant (acts.map (worker, ·)) =
        some (crew.settle worker (.ofOutcome outcome.1) outcome.2) := by
  rcases looked : (Session.usableToken? : Operation Source GatewayError (Option AccessToken))
    session with ⟨halt | _ | token, after⟩
  · rw [Operation.bind_of_error looked] at left
    subst left
    exact ⟨[.lookAgain], by simp, by simp [run, advance, looked, Stage.afterLook, Stage.ofOutcome]⟩
  · rw [Operation.bind_of_ok looked] at left
    rcases asked : grant after.source with ⟨error | fresh, source⟩
    · dsimp only at left
      rw [Operation.bind_of_error (Session.refresh_of_error asked)] at left
      subst left
      exact ⟨[.lookAgain, .ask, .receive], by simp,
        by simp [run, advance, looked, asked, Stage.afterLook, Stage.ofOutcome]⟩
    · dsimp only at left
      rw [Operation.bind_of_ok (Session.refresh_of_ok asked)] at left
      obtain rfl :
          (.ok fresh.secret.expose, { after with token := some fresh, source }) = outcome := left
      exact ⟨[.lookAgain, .ask, .receive, .keep], by simp,
        by simp [run, advance, looked, asked, Stage.afterLook, Stage.ofOutcome]⟩
  · rw [Operation.bind_of_ok looked] at left
    obtain rfl : (.ok token.secret.expose, after) = outcome := left
    exact ⟨[.lookAgain], by simp, by simp [run, advance, looked, Stage.afterLook, Stage.ofOutcome]⟩

/-- A worker that goes on alone ends with what obtaining a token comes to. -/
theorem exists_run_alone (grant : Grant Source) (arriving : crew.stage worker = .arriving)
    (free : crew.refresher = none) :
    ∃ acts : List Act, .complain ∉ acts ∧ crew.run grant (acts.map (worker, ·)) =
      some (crew.settle worker (.ofOutcome (crew.session.obtainToken grant).1)
        (crew.session.obtainToken grant).2) := by
  generalize obtained : crew.session.obtainToken grant = outcome
  unfold Session.obtainToken at obtained
  rcases looked : (Session.usableToken? : Operation Source GatewayError (Option AccessToken))
    crew.session with ⟨halt | _ | token, after⟩
  · rw [Operation.bind_of_error looked] at obtained
    subst obtained
    exact ⟨[.look], by simp,
      by simp [run, advance, arriving, free, looked, Stage.afterLook, Stage.ofOutcome]⟩
  · rw [Operation.bind_of_ok looked] at obtained
    obtain ⟨acts, honest, ran⟩ : ∃ acts : List Act, .complain ∉ acts ∧
        (crew.settle worker .entered after).run grant (acts.map (worker, ·)) =
          some (crew.settle worker (.ofOutcome outcome.1) outcome.2) := exists_run_entered obtained
    refine ⟨.look :: .enter :: acts, by simpa using honest, ?_⟩
    simp [run, advance, arriving, free, looked, Stage.afterLook, Stage.isInside, ran]
  · rw [Operation.bind_of_ok looked] at obtained
    obtain rfl : (.ok token.secret.expose, after) = outcome := obtained
    exact ⟨[.look], by simp,
      by simp [run, advance, arriving, free, looked, Stage.afterLook, Stage.ofOutcome]⟩

/-- Workers that come one after another end with what as many callers obtain. -/
theorem exists_run_queue {workers : List Worker} (distinct : workers.Nodup)
    (arriving : ∀ worker ∈ workers, crew.stage worker = .arriving)
    (free : crew.refresher = none) :
    ∃ moves final, crew.run grant moves = some final ∧ final.refresher = none ∧
      final.session = (Session.obtainTokens grant workers.length crew.session).2 ∧
      workers.map final.stage =
        (Session.obtainTokens grant workers.length crew.session).1.map .ofOutcome ∧
      ∀ other ∉ workers, final.stage other = crew.stage other := by
  induction workers generalizing crew with
  | nil => exact ⟨[], crew, rfl, free, rfl, rfl, fun _ _ => rfl⟩
  | cons worker rest ih =>
      obtain ⟨apart, distinctRest⟩ := List.nodup_cons.mp distinct
      obtain ⟨acts, -, first⟩ := exists_run_alone grant (arriving worker List.mem_cons_self) free
      have arrivingRest : ∀ other ∈ rest,
          (crew.settle worker (.ofOutcome (crew.session.obtainToken grant).1)
            (crew.session.obtainToken grant).2).stage other = .arriving := by
        intro other among
        have different : other ≠ worker := by
          rintro rfl
          exact apart among
        simpa [settle, Function.update_of_ne different] using
          arriving other (List.mem_cons_of_mem worker among)
      obtain ⟨moves, final, went, freeFinal, sessionEq, stages, others⟩ :=
        ih distinctRest arrivingRest (by simp [Stage.isInside_ofOutcome])
      refine ⟨acts.map (worker, ·) ++ moves, final, run_append_eq_some_iff.mpr ⟨_, first, went⟩,
        freeFinal, ?_, ?_, ?_⟩
      · rw [List.length_cons, Session.obtainTokens_succ]
        exact sessionEq
      · rw [List.length_cons, Session.obtainTokens_succ, List.map_cons, List.map_cons,
          others worker apart, stage_settle, stages]
        rfl
      · intro other outside
        obtain ⟨different, outsideRest⟩ := not_or.mp (mt List.mem_cons.mpr outside)
        rw [others other outsideRest]
        exact Function.update_of_ne different _ _

end Crew

end HostedCheckout
