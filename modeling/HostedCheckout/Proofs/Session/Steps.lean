import HostedCheckout.Gateway.Crew
import HostedCheckout.Proofs.Session.Looks

/-!
# The steps of a crew

Every step that can be taken is one of eleven.  From them it is derived what a
step never changes, and the invariant of all runs: a worker is inside exactly when
it has the right to refresh, and one that goes on to refresh has found nothing
usable at the latest reading of the clock.
-/

namespace HostedCheckout

variable {Worker Source : Type} {grant : Grant Source}

namespace Stage

/-- Whether a worker is about to refresh: it has the right, and has looked again. -/
def isRefreshing : Stage → Bool
  | cleared | asking _ | keeping _ => true
  | _ => false

theorem isInside_of_isRefreshing {stage : Stage} (refreshing : stage.isRefreshing = true) :
    stage.isInside = true := by
  cases stage with
  | cleared | asking | keeping => rfl
  | _ => exact absurd refreshing Bool.false_ne_true

end Stage

namespace Crew

variable {crew after : Crew Worker Source} {worker : Worker} {act : Act}

/-! ## The invariant of all runs -/

/-- What holds of a crew in any run. -/
structure Sound (crew : Crew Worker Source) : Prop where
  inside_iff : ∀ worker, (crew.stage worker).isInside = true ↔ crew.refresher = some worker
  lapsed : ∀ worker, (crew.stage worker).isRefreshing = true →
    crew.session.holdsUsable (crew.session.readings - 1) = false

theorem sound_gathered (session : Session Source) :
    (gathered session : Crew Worker Source).Sound where
  inside_iff worker := by simp [gathered, Stage.isInside]
  lapsed worker refreshing := absurd refreshing Bool.false_ne_true

/-- While one worker may go inside, no other is. -/
theorem Sound.outside (sound : crew.Sound)
    (free : crew.refresher = none ∨ crew.refresher = some worker) {other : Worker}
    (different : other ≠ worker) : (crew.stage other).isInside = false := by
  rw [Bool.eq_false_iff, ne_eq, sound.inside_iff]
  rcases free with free | free <;> simp [free, Ne.symm different]

/-- While nobody has the right to refresh, nobody is about to. -/
theorem Sound.idle (sound : crew.Sound) (free : crew.refresher = none) (worker : Worker) :
    (crew.stage worker).isRefreshing = false := by
  rw [Bool.eq_false_iff]
  intro refreshing
  have inside := (sound.inside_iff worker).mp (Stage.isInside_of_isRefreshing refreshing)
  rw [free] at inside
  exact absurd inside (Option.some_ne_none _).symm

/-! ## Single steps -/

variable [DecidableEq Worker]

/-- The steps of a worker. -/
inductive Advances (grant : Grant Source) (crew : Crew Worker Source) (worker : Worker) :
    Act → Crew Worker Source → Prop
  | look {found : Except (Halt GatewayError) (Option AccessToken)} {session : Session Source} :
      crew.stage worker = .arriving → crew.refresher = none →
      crew.session.Looks (found, session) →
      Advances grant crew worker .look (crew.settle worker (.afterLook .queuing found) session)
  | enter : crew.stage worker = .queuing → crew.refresher = none →
      Advances grant crew worker .enter (crew.settle worker .entered crew.session)
  | lookAgain {found : Except (Halt GatewayError) (Option AccessToken)}
      {session : Session Source} :
      crew.stage worker = .entered → crew.session.Looks (found, session) →
      Advances grant crew worker .lookAgain
        (crew.settle worker (.afterLook .cleared found) session)
  | ask {answer : Except GatewayError AccessToken} {source : Source} :
      crew.stage worker = .cleared → grant crew.session.source = (answer, source) →
      Advances grant crew worker .ask
        (crew.settle worker (.asking answer) { crew.session with source := source })
  | granted {fresh : AccessToken} : crew.stage worker = .asking (.ok fresh) →
      Advances grant crew worker .receive (crew.settle worker (.keeping fresh) crew.session)
  | refused {error : GatewayError} : crew.stage worker = .asking (.error error) →
      Advances grant crew worker .receive
        (crew.settle worker (.failed (.failed error)) crew.session)
  | keep {fresh : AccessToken} : crew.stage worker = .keeping fresh →
      Advances grant crew worker .keep
        (crew.settle worker (.holding fresh.secret.expose)
          { crew.session with token := some fresh })
  | leave : crew.stage worker = .arriving ∨ crew.stage worker = .queuing →
      Advances grant crew worker .leave (crew.shift worker .gone)
  | abandon {answer : Except GatewayError AccessToken} : crew.stage worker = .asking answer →
      Advances grant crew worker .leave (crew.settle worker .gone crew.session)
  | complain {token : String} : crew.stage worker = .holding token →
      Advances grant crew worker .complain (crew.shift worker (.spurned token))
  | forget {token : String} : crew.stage worker = .spurned token → crew.refresher = none →
      Advances grant crew worker .forget
        (crew.settle worker .gone
          { crew.session with token := crew.session.token.filter (·.secret.expose != token) })

theorem advances_of_advance (advanced : crew.advance grant worker act = some after) :
    crew.Advances grant worker act after := by
  unfold advance at advanced
  split at advanced
  · rename_i arriving
    split at advanced
    · cases advanced
    · rename_i free
      cases advanced
      exact .look arriving (by simpa using free) crew.session.looks_usableToken?
  · rename_i queuing
    split at advanced
    · cases advanced
    · rename_i free
      cases advanced
      exact .enter queuing (by simpa using free)
  · rename_i entered
    cases advanced
    exact .lookAgain entered crew.session.looks_usableToken?
  · rename_i cleared
    cases advanced
    exact .ask cleared rfl
  · rename_i asking
    cases advanced
    exact .granted asking
  · rename_i asking
    cases advanced
    exact .refused asking
  · rename_i keeping
    cases advanced
    exact .keep keeping
  · rename_i arriving
    cases advanced
    exact .leave (.inl arriving)
  · rename_i queuing
    cases advanced
    exact .leave (.inr queuing)
  · rename_i asking
    cases advanced
    exact .abandon asking
  · rename_i holding
    cases advanced
    exact .complain holding
  · rename_i spurned
    split at advanced
    · cases advanced
    · rename_i free
      cases advanced
      simp only [Session.forget_snd]
      exact .forget spurned (by simpa using free)
  · cases advanced

theorem Sound.settle (sound : crew.Sound)
    (free : crew.refresher = none ∨ crew.refresher = some worker) {stage : Stage}
    {session : Session Source}
    (lapsed : stage.isRefreshing = true → session.holdsUsable (session.readings - 1) = false) :
    (crew.settle worker stage session).Sound where
  inside_iff other := by
    by_cases same : other = worker
    · subst same
      cases inside : stage.isInside <;> simp [Crew.settle, inside]
    · have outside := sound.outside free same
      cases inside : stage.isInside <;>
        simp [Crew.settle, Function.update_of_ne same, outside, inside, Ne.symm same]
  lapsed other refreshing := by
    by_cases same : other = worker
    · subst same
      exact lapsed (by simpa [Crew.settle] using refreshing)
    · have outside := sound.outside free same
      simp only [Crew.settle, Function.update_of_ne same] at refreshing
      rw [Stage.isInside_of_isRefreshing refreshing] at outside
      exact absurd outside.symm Bool.false_ne_true

/-- Most stages do not lead to refreshing, so that nothing has to be known of the
session there. -/
theorem Sound.settle_idle (sound : crew.Sound)
    (free : crew.refresher = none ∨ crew.refresher = some worker) {stage : Stage}
    (idle : stage.isRefreshing = false) (session : Session Source) :
    (crew.settle worker stage session).Sound := by
  refine sound.settle free fun refreshing => ?_
  rw [idle] at refreshing
  exact absurd refreshing Bool.false_ne_true

/-- A worker that is not inside moves on without going there. -/
theorem Sound.shift (sound : crew.Sound) {stage : Stage}
    (before : (crew.stage worker).isInside = false) (outside : stage.isInside = false) :
    (crew.shift worker stage).Sound where
  inside_iff other := by
    by_cases same : other = worker
    · subst same
      have elsewhere : crew.refresher ≠ some other := by
        rw [ne_eq, ← sound.inside_iff other, before]
        exact Bool.false_ne_true
      simp [Crew.shift, outside, elsewhere]
    · simpa [Crew.shift, Function.update_of_ne same] using sound.inside_iff other
  lapsed other refreshing := by
    by_cases same : other = worker
    · subst same
      simp only [Crew.shift, Function.update_self] at refreshing
      rw [Stage.isInside_of_isRefreshing refreshing] at outside
      exact absurd outside.symm Bool.false_ne_true
    · simp only [Crew.shift, Function.update_of_ne same] at refreshing
      exact sound.lapsed other refreshing

/-- A look leads to refreshing only if it found nothing usable. -/
theorem lapsed_of_looks {session looked : Session Source} {missed : Stage}
    {found : Except (Halt GatewayError) (Option AccessToken)}
    (looks : session.Looks (found, looked))
    (refreshing : (Stage.afterLook missed found).isRefreshing = true) :
    looked.holdsUsable (looked.readings - 1) = false := by
  cases looks with
  | empty held => simp [Session.holdsUsable, held]
  | unreadable => exact absurd refreshing Bool.false_ne_true
  | usable => exact absurd refreshing Bool.false_ne_true
  | lapsed held judged unusable =>
      exact Session.Looks.holdsUsable_eq_false (.lapsed held judged unusable)

theorem Advances.sound (advances : crew.Advances grant worker act after) (sound : crew.Sound) :
    after.Sound := by
  -- A worker that steps either has the right to refresh, or may have it.
  have right {stage : Stage} (standing : crew.stage worker = stage)
      (inside : stage.isInside = true) :
      crew.refresher = none ∨ crew.refresher = some worker := by
    rw [← standing] at inside
    exact .inr ((sound.inside_iff worker).mp inside)
  cases advances with
  | look _ free looks => exact sound.settle (.inl free) (lapsed_of_looks looks)
  | lookAgain entered looks => exact sound.settle (right entered rfl) (lapsed_of_looks looks)
  | ask cleared _ =>
      refine sound.settle (right cleared rfl) fun _ => ?_
      exact sound.lapsed worker (by rw [cleared]; rfl)
  | granted asking =>
      refine sound.settle (right asking rfl) fun _ => ?_
      exact sound.lapsed worker (by rw [asking]; rfl)
  | enter _ free => exact sound.settle_idle (.inl free) rfl _
  | refused asking => exact sound.settle_idle (right asking rfl) rfl _
  | keep keeping => exact sound.settle_idle (right keeping rfl) rfl _
  | abandon asking => exact sound.settle_idle (right asking rfl) rfl _
  | forget _ free => exact sound.settle_idle (.inl free) rfl _
  | leave waiting =>
      refine sound.shift ?_ rfl
      rcases waiting with arriving | queuing
      · rw [arriving]
        rfl
      · rw [queuing]
        rfl
  | complain holding => exact sound.shift (by rw [holding]; rfl) rfl

/-- A step leaves the clock and the margin alone. -/
theorem Advances.accepts_eq (advances : crew.Advances grant worker act after) :
    after.session.accepts = crew.session.accepts := by
  cases advances with
  | look _ _ looks | lookAgain _ looks => exact looks.accepts_eq
  | _ => rfl

theorem Advances.readings_le (advances : crew.Advances grant worker act after) :
    crew.session.readings ≤ after.session.readings := by
  cases advances with
  | look _ _ looks | lookAgain _ looks => exact looks.readings_le
  | _ => exact Nat.le_refl _

/-- Once a token is remembered, the right to refresh is given back. -/
theorem Advances.refresher_of_keep (advances : crew.Advances grant worker .keep after) :
    after.refresher = none := by
  cases advances with
  | keep => rfl

/-! ## Runs -/

theorem run_append (first second : List (Worker × Act)) (crew : Crew Worker Source) :
    crew.run grant (first ++ second) = (crew.run grant first).bind (run grant second) := by
  induction first generalizing crew with
  | nil => rfl
  | cons move rest ih =>
      rcases move with ⟨worker, act⟩
      simp only [List.cons_append, run]
      cases crew.advance grant worker act with
      | none => rfl
      | some middle => exact ih middle

/-- A run that goes on after a step has taken it. -/
theorem run_cons_eq_some_iff {final : Crew Worker Source} {rest : List (Worker × Act)} :
    crew.run grant ((worker, act) :: rest) = some final ↔
      ∃ middle, crew.advance grant worker act = some middle ∧ middle.run grant rest = some final :=
  Option.bind_eq_some_iff

theorem run_append_eq_some_iff {final : Crew Worker Source} {first second : List (Worker × Act)} :
    crew.run grant (first ++ second) = some final ↔
      ∃ middle, crew.run grant first = some middle ∧ middle.run grant second = some final := by
  rw [run_append]
  exact Option.bind_eq_some_iff

/-- The last step of a run. -/
theorem run_concat_eq_some_iff {final : Crew Worker Source} {moves : List (Worker × Act)} :
    crew.run grant (moves ++ [(worker, act)]) = some final ↔
      ∃ middle, crew.run grant moves = some middle ∧
        middle.advance grant worker act = some final := by
  rw [run_append_eq_some_iff]
  simp only [run, Option.bind_fun_some]

theorem readings_le_of_run {moves : List (Worker × Act)}
    (ran : crew.run grant moves = some after) :
    crew.session.readings ≤ after.session.readings := by
  induction moves generalizing crew with
  | nil =>
      obtain rfl := Option.some.inj ran
      exact Nat.le_refl _
  | cons move rest ih =>
      obtain ⟨middle, advanced, went⟩ := run_cons_eq_some_iff.mp ran
      exact Nat.le_trans (advances_of_advance advanced).readings_le (ih went)

theorem Sound.run {moves : List (Worker × Act)} (sound : crew.Sound)
    (ran : crew.run grant moves = some after) : after.Sound := by
  induction moves generalizing crew with
  | nil =>
      obtain rfl := Option.some.inj ran
      exact sound
  | cons move rest ih =>
      obtain ⟨middle, advanced, went⟩ := run_cons_eq_some_iff.mp ran
      exact ih ((advances_of_advance advanced).sound sound) went

end Crew

end HostedCheckout
