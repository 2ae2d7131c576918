import HostedCheckout.Proofs.Session.Steps
import Mathlib.Data.List.Induction

/-!
# Single flight

In whatever order the workers of a crew take their steps, at most one of them is
waiting for a token at any time, and only because nothing usable was remembered.
Once a token is remembered that stays usable, nobody asks for another.  What a
worker ends up with was usable when it looked, or was granted to the worker itself.
-/

namespace HostedCheckout

variable {Worker Source : Type} [DecidableEq Worker] {grant : Grant Source}

namespace Crew

variable {start crew after final : Crew Worker Source} {worker : Worker} {act : Act}
  {moves : List (Worker × Act)} {token : AccessToken}

/-! ## Where tokens come from -/

/-- A step that a worker takes in a run, and the crew in which it is taken. -/
def Took (grant : Grant Source) (start : Crew Worker Source) (moves : List (Worker × Act))
    (worker : Worker) (act : Act) (here : Crew Worker Source) : Prop :=
  ∃ earlier later, moves = earlier ++ (worker, act) :: later ∧
    start.run grant earlier = some here

theorem Took.concat {here : Crew Worker Source} (took : Took grant start moves worker act here)
    (move : Worker × Act) : Took grant start (moves ++ [move]) worker act here := by
  obtain ⟨earlier, later, rfl, ran⟩ := took
  exact ⟨earlier, later ++ [move], by simp, ran⟩

theorem took_last (ran : start.run grant moves = some crew) (worker : Worker) (act : Act) :
    Took grant start (moves ++ [(worker, act)]) worker act crew :=
  ⟨moves, [], rfl, ran⟩

/-- Whether a worker has found a token, usable at the reading of its look. -/
def Found (grant : Grant Source) (start : Crew Worker Source) (moves : List (Worker × Act))
    (worker : Worker) (token : String) : Prop :=
  ∃ here act held, (act = .look ∨ act = .lookAgain) ∧ Took grant start moves worker act here ∧
    here.session.token = some held ∧ held.secret.expose = token ∧
    here.session.accepts held here.session.readings = true

/-- Whether a worker has been granted a token. -/
def Earned (grant : Grant Source) (start : Crew Worker Source) (moves : List (Worker × Act))
    (worker : Worker) (fresh : AccessToken) : Prop :=
  ∃ here, Took grant start moves worker .ask here ∧ (grant here.session.source).1 = .ok fresh

/-- Whether a worker has come by itself to what it has in a stage. -/
def Backed (grant : Grant Source) (start : Crew Worker Source) (moves : List (Worker × Act))
    (worker : Worker) : Stage → Prop
  | .asking (.ok fresh) | .keeping fresh => Earned grant start moves worker fresh
  | .holding token =>
      Found grant start moves worker token ∨
        ∃ fresh, Earned grant start moves worker fresh ∧ fresh.secret.expose = token
  | _ => True

theorem Found.concat {token : String} (found : Found grant start moves worker token)
    (move : Worker × Act) : Found grant start (moves ++ [move]) worker token := by
  obtain ⟨here, act, held, looks, took, usable⟩ := found
  exact ⟨here, act, held, looks, took.concat move, usable⟩

theorem Earned.concat {fresh : AccessToken} (earned : Earned grant start moves worker fresh)
    (move : Worker × Act) : Earned grant start (moves ++ [move]) worker fresh := by
  obtain ⟨here, took, granted⟩ := earned
  exact ⟨here, took.concat move, granted⟩

theorem Backed.concat {stage : Stage} (backed : Backed grant start moves worker stage)
    (move : Worker × Act) : Backed grant start (moves ++ [move]) worker stage := by
  cases stage with
  | asking answer =>
      cases answer with
      | ok fresh => exact Earned.concat backed move
      | error => trivial
  | keeping fresh => exact Earned.concat backed move
  | holding token =>
      rcases backed with found | ⟨fresh, earned, same⟩
      · exact .inl (found.concat move)
      · exact .inr ⟨fresh, earned.concat move, same⟩
  | _ => trivial

/-- A look leaves a worker with what it has found, or with nothing. -/
theorem backed_of_looks (ran : start.run grant moves = some crew)
    (looking : act = .look ∨ act = .lookAgain) {missed : Stage}
    (nothing : ∀ moves, Backed grant start moves worker missed)
    {found : Except (Halt GatewayError) (Option AccessToken)} {session : Session Source}
    (looks : crew.session.Looks (found, session)) :
    Backed grant start (moves ++ [(worker, act)]) worker (.afterLook missed found) := by
  cases looks with
  | empty | lapsed => exact nothing _
  | unreadable => trivial
  | usable held accepted =>
      exact .inl ⟨crew, act, _, looking, took_last ran worker act, held, rfl, accepted⟩

/-- A step changes the stage of the worker that takes it alone. -/
theorem Advances.stage_of_ne (advances : crew.Advances grant worker act after) {other : Worker}
    (different : other ≠ worker) : after.stage other = crew.stage other := by
  cases advances <;> exact Function.update_of_ne different _ _

theorem Advances.backed (advances : crew.Advances grant worker act after)
    (ran : start.run grant moves = some crew)
    (backed : Backed grant start moves worker (crew.stage worker)) :
    Backed grant start (moves ++ [(worker, act)]) worker (after.stage worker) := by
  cases advances with
  | look _ _ looks =>
      simp only [settle, Function.update_self]
      refine backed_of_looks ran (.inl rfl) (fun _ => ?_) looks
      trivial
  | lookAgain _ looks =>
      simp only [settle, Function.update_self]
      refine backed_of_looks ran (.inr rfl) (fun _ => ?_) looks
      trivial
  | @ask answer source _ asked =>
      simp only [settle, Function.update_self]
      cases answer with
      | error => trivial
      | ok fresh => exact ⟨crew, took_last ran worker .ask, by rw [asked]⟩
  | granted asking =>
      rw [asking] at backed
      simp only [settle, Function.update_self]
      exact Earned.concat backed _
  | keep keeping =>
      rw [keeping] at backed
      simp only [settle, Function.update_self]
      exact .inr ⟨_, Earned.concat backed _, rfl⟩
  | enter | refused | abandon | forget =>
      simp only [settle, Function.update_self]
      trivial
  | leave | complain =>
      simp only [shift, Function.update_self]
      trivial

/-- In a run from the start, every worker has come by itself to what it has. -/
theorem backed_of_run (arriving : ∀ worker, start.stage worker = .arriving)
    (ran : start.run grant moves = some final) (worker : Worker) :
    Backed grant start moves worker (final.stage worker) := by
  induction moves using List.reverseRecOn generalizing final with
  | nil =>
      obtain rfl := Option.some.inj ran
      rw [arriving worker]
      trivial
  | append_singleton moves move ih =>
      rcases move with ⟨mover, act⟩
      obtain ⟨crew, went, advanced⟩ := run_concat_eq_some_iff.mp ran
      have advances := advances_of_advance advanced
      by_cases same : worker = mover
      · subst same
        exact advances.backed went (ih went)
      · rw [advances.stage_of_ne same]
        exact (ih went).concat _

/-! ## A token that stays usable -/

/-- A crew that has a token, and in which nobody is about to ask for another. -/
structure Supplied (crew : Crew Worker Source) (token : AccessToken) : Prop where
  token_eq : crew.session.token = some token
  idle : ∀ worker, (crew.stage worker).isRefreshing = false

theorem Supplied.settle (supplied : crew.Supplied token) {stage : Stage} {session : Session Source}
    (kept : session.token = some token) (idle : stage.isRefreshing = false) :
    (crew.settle worker stage session).Supplied token where
  token_eq := kept
  idle other := by
    by_cases same : other = worker
    · subst same
      simpa [Crew.settle] using idle
    · simpa [Crew.settle, Function.update_of_ne same] using supplied.idle other

theorem Supplied.shift (supplied : crew.Supplied token) {stage : Stage}
    (idle : stage.isRefreshing = false) : (crew.shift worker stage).Supplied token where
  token_eq := supplied.token_eq
  idle other := by
    by_cases same : other = worker
    · subst same
      simpa [Crew.shift] using idle
    · simpa [Crew.shift, Function.update_of_ne same] using supplied.idle other

/-- Nobody asks for a token while the one that is remembered is usable. -/
theorem Advances.supplied (advances : crew.Advances grant worker act after)
    (supplied : crew.Supplied token)
    (usable : crew.session.readings < after.session.readings →
      crew.session.accepts token crew.session.readings = true)
    (loyal : act ≠ .forget) : act ≠ .ask ∧ after.Supplied token := by
  have idle {stage : Stage} (standing : crew.stage worker = stage)
      (refreshing : stage.isRefreshing = true) : False := by
    have resting := supplied.idle worker
    rw [standing, refreshing] at resting
    exact Bool.false_ne_true resting.symm
  cases advances with
  | look _ _ looks =>
      refine ⟨Act.noConfusion, supplied.settle (looks.token_eq.trans supplied.token_eq) ?_⟩
      cases looks <;> rfl
  | enter => exact ⟨Act.noConfusion, supplied.settle supplied.token_eq rfl⟩
  | lookAgain _ looks =>
      refine ⟨Act.noConfusion, supplied.settle (looks.token_eq.trans supplied.token_eq) ?_⟩
      cases looks with
      | empty none =>
          rw [supplied.token_eq] at none
          exact absurd none (Option.some_ne_none _)
      | unreadable | usable => rfl
      | lapsed held judged unusable =>
          obtain rfl := Option.some.inj (supplied.token_eq.symm.trans held)
          have accepted := usable (Nat.lt_succ_self _)
          simp [Session.accepts, judged, unusable] at accepted
  | ask cleared => exact (idle cleared rfl).elim
  | granted asking => exact (idle asking rfl).elim
  | keep keeping => exact (idle keeping rfl).elim
  | refused | abandon => exact ⟨Act.noConfusion, supplied.settle supplied.token_eq rfl⟩
  | leave | complain => exact ⟨Act.noConfusion, supplied.shift rfl⟩
  | forget => exact absurd rfl loyal

/-- Nor does anybody in a run in which it stays usable and is not forgotten. -/
theorem Supplied.run (supplied : crew.Supplied token) (ran : crew.run grant moves = some final)
    (usable : ∀ reading, crew.session.readings ≤ reading → reading < final.session.readings →
      crew.session.accepts token reading = true)
    (loyal : ∀ worker, (worker, Act.forget) ∉ moves) (worker : Worker) :
    (worker, Act.ask) ∉ moves := by
  induction moves generalizing crew with
  | nil => exact List.not_mem_nil
  | cons move rest ih =>
      rcases move with ⟨mover, act⟩
      obtain ⟨middle, advanced, went⟩ := run_cons_eq_some_iff.mp ran
      have advances := advances_of_advance advanced
      have later := readings_le_of_run went
      have loyalHere : act ≠ .forget := by
        rintro rfl
        exact loyal mover List.mem_cons_self
      obtain ⟨quiet, suppliedNext⟩ := advances.supplied supplied
        (fun read => usable _ (Nat.le_refl _) (Nat.lt_of_lt_of_le read later)) loyalHere
      have quietLater := ih suppliedNext went
        (fun reading after before => by
          rw [advances.accepts_eq]
          exact usable reading (Nat.le_trans advances.readings_le after) before)
        (fun other among => loyal other (List.mem_cons_of_mem _ among))
      intro among
      rcases List.mem_cons.mp among with here | there
      · exact quiet (congrArg Prod.snd here).symm
      · exact quietLater there

/-! ## The law of all runs -/

/-- What single flight means for a run of a crew that has just come together. -/
structure SingleFlight (grant : Grant Source) (session : Session Source)
    (moves : List (Worker × Act)) (final : Crew Worker Source) : Prop where
  /-- Only the worker that has the right to refresh asks for a token, and only
  when, at the latest reading of the clock, nothing usable is remembered. -/
  lapsed : ∀ worker here, Took grant (gathered session) moves worker .ask here →
    here.refresher = some worker ∧
      here.session.holdsUsable (here.session.readings - 1) = false
  /-- No two workers wait for a token at a time. -/
  alone : ∀ first second answer other, final.stage first = .asking answer →
    final.stage second = .asking other → first = second
  /-- Once a token is remembered that is usable at every later reading, and is not
  forgotten, nobody asks for another. -/
  supplied : ∀ earlier worker later stored token,
    moves = earlier ++ (worker, .keep) :: later →
    (gathered session).run grant (earlier ++ [(worker, .keep)]) = some stored →
    stored.session.token = some token →
    (∀ reading, stored.session.readings ≤ reading → reading < final.session.readings →
      stored.session.accepts token reading = true) →
    (∀ other, (other, .forget) ∉ later) → ∀ other, (other, .ask) ∉ later
  /-- A worker has a token that it found, usable at the reading of its look, or
  one that was granted to itself. -/
  backed : ∀ worker token, final.stage worker = .holding token →
    Found grant (gathered session) moves worker token ∨
      ∃ fresh, Earned grant (gathered session) moves worker fresh ∧
        fresh.secret.expose = token

theorem Took.advances {here : Crew Worker Source} (took : Took grant start moves worker act here)
    (ran : start.run grant moves = some final) : ∃ after, here.Advances grant worker act after := by
  obtain ⟨earlier, later, rfl, went⟩ := took
  obtain ⟨middle, same, rest⟩ := run_append_eq_some_iff.mp ran
  obtain rfl := Option.some.inj (went.symm.trans same)
  obtain ⟨after, advanced, -⟩ := run_cons_eq_some_iff.mp rest
  exact ⟨after, advances_of_advance advanced⟩

theorem Took.sound {here : Crew Worker Source} (took : Took grant start moves worker act here)
    (sound : start.Sound) : here.Sound := by
  obtain ⟨earlier, later, rfl, went⟩ := took
  exact sound.run went

/-- Whoever has just remembered a token leaves nobody about to ask for another. -/
theorem supplied_of_keep (ran : start.run grant (moves ++ [(worker, .keep)]) = some crew)
    (sound : start.Sound) (kept : crew.session.token = some token) : crew.Supplied token := by
  obtain ⟨before, -, advanced⟩ := run_concat_eq_some_iff.mp ran
  have free := (advances_of_advance advanced).refresher_of_keep
  exact ⟨kept, (sound.run ran).idle free⟩

/-- In every run of a crew that has just come together, tokens are asked for in
single flight. -/
theorem single_flight {session : Session Source}
    (ran : (gathered session).run grant moves = some final) :
    SingleFlight grant session moves final where
  lapsed worker here took := by
    have sound := took.sound (sound_gathered session)
    obtain ⟨after, advances⟩ := took.advances ran
    cases advances with
    | ask cleared _ =>
        constructor
        · exact (sound.inside_iff worker).mp (by rw [cleared]; rfl)
        · exact sound.lapsed worker (by rw [cleared]; rfl)
  alone first second answer other firstAsks secondAsks := by
    have sound := (sound_gathered session).run ran
    have firstInside := (sound.inside_iff first).mp (by rw [firstAsks]; rfl)
    have secondInside := (sound.inside_iff second).mp (by rw [secondAsks]; rfl)
    exact Option.some.inj (firstInside.symm.trans secondInside)
  supplied := by
    rintro earlier worker later stored token rfl went kept usable loyal other
    have supplied := supplied_of_keep went (sound_gathered session) kept
    have rest : stored.run grant later = some final := by
      rw [List.append_cons] at ran
      obtain ⟨middle, same, rest⟩ := run_append_eq_some_iff.mp ran
      obtain rfl := Option.some.inj (went.symm.trans same)
      exact rest
    exact supplied.run rest usable loyal other
  backed worker token holds := by
    have backed := backed_of_run (fun _ => rfl) ran worker
    rw [holds] at backed
    exact backed

namespace Sample

/-- A source that grants a token for the first hour of 1970. -/
def source : Grant Unit := fun source =>
  (.ok ⟨⟨"t"⟩, "1970-01-01T01:00:00Z", ⟨3600, 0⟩⟩, source)

/-- A session at the start of 1970 that remembers no token. -/
def session : Session Unit := ⟨none, 0, fun _ => 0, 0, ()⟩

/-- Two workers find nothing.  The second one waits while the first one is granted a
token, and then finds that. -/
def schedule : List (Bool × Act) :=
  [(false, .look), (true, .look), (false, .enter), (false, .lookAgain), (false, .ask),
    (false, .receive), (false, .keep), (true, .enter), (true, .lookAgain)]

end Sample

/-- The schedule can be followed to its end. -/
theorem single_flight_of_two_workers :
    ∃ final, (gathered Sample.session).run Sample.source Sample.schedule = some final ∧
      SingleFlight Sample.source Sample.session Sample.schedule final := by
  have ended : ((gathered Sample.session).run Sample.source Sample.schedule).isSome := by
    decide +kernel
  obtain ⟨final, ran⟩ := Option.isSome_iff_exists.mp ended
  exact ⟨final, ran, single_flight ran⟩

end Crew

end HostedCheckout
