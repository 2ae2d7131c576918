import HostedCheckout.Gateway.Rounds
import HostedCheckout.Proofs.Session.SingleFlight

/-!
# The deeds of a crew

Every deed that can be done is a step, a call with a token, or the beginning of another
round.  From this it is derived what no deed changes, and so no rounds: the clock and the
margin, and that a worker is inside exactly when it has the right to refresh.
-/

namespace HostedCheckout

variable {Worker Source : Type} {grant : Grant Source}

/-- A worker leaves after its call, unless its token was rejected. -/
theorem Stage.afterCall_cases (token : String) (outcome : Except GatewayError Unit) :
    afterCall token outcome = gone ∨ afterCall token outcome = spurned token := by
  rcases outcome with error | ⟨⟩
  · unfold afterCall
    dsimp only
    split
    · exact .inr rfl
    · exact .inl rfl
  · exact .inl rfl

namespace Crew

variable [DecidableEq Worker] {crew after middle final : Crew Worker Source} {worker : Worker}
  {deed : Deed Source}

/-! ## Single deeds -/

/-- What a worker does in its rounds. -/
inductive Proceeds (grant : Grant Source) (crew : Crew Worker Source) (worker : Worker) :
    Deed Source → Crew Worker Source → Prop
  | step {act : Act} {after : Crew Worker Source} : act ≠ .complain →
      crew.Advances grant worker act after → Proceeds grant crew worker (.step act) after
  | call {token : String} {errand : Errand Source} {outcome : Except GatewayError Unit}
      {source : Source} : crew.stage worker = .holding token →
      errand token crew.session.source = (outcome, source) →
      Proceeds grant crew worker (.call errand)
        (shift { crew with session := { crew.session with source := source } } worker
          (.afterCall token outcome))
  | comeAgain : crew.stage worker = .gone ∨ (∃ halt, crew.stage worker = .failed halt) →
      Proceeds grant crew worker .comeAgain (crew.shift worker .arriving)

theorem proceeds_of_proceed (proceeded : crew.proceed grant worker deed = some after) :
    crew.Proceeds grant worker deed after := by
  unfold proceed at proceeded
  split at proceeded
  · cases proceeded
  · rename_i act honest
    exact .step honest (advances_of_advance proceeded)
  · split at proceeded
    · rename_i holding
      cases proceeded
      exact .call holding rfl
    · cases proceeded
  · split at proceeded
    · rename_i gone
      cases proceeded
      exact .comeAgain (.inl gone)
    · rename_i halt failed
      cases proceeded
      exact .comeAgain (.inr ⟨halt, failed⟩)
    · cases proceeded

theorem Proceeds.sound (proceeds : crew.Proceeds grant worker deed after) (sound : crew.Sound) :
    after.Sound := by
  cases proceeds with
  | step _ advances => exact advances.sound sound
  | @call token errand outcome source holding _ =>
      have called : Sound { crew with session := { crew.session with source := source } } :=
        ⟨sound.inside_iff, sound.lapsed⟩
      refine called.shift (by rw [holding]; rfl) ?_
      rcases Stage.afterCall_cases token outcome with leads | leads <;> rw [leads] <;> rfl
  | comeAgain waiting =>
      refine sound.shift ?_ rfl
      rcases waiting with gone | ⟨halt, failed⟩
      · rw [gone]
        rfl
      · rw [failed]
        rfl

theorem Proceeds.accepts_eq (proceeds : crew.Proceeds grant worker deed after) :
    after.session.accepts = crew.session.accepts := by
  cases proceeds with
  | step _ advances => exact advances.accepts_eq
  | _ => rfl

theorem Proceeds.readings_le (proceeds : crew.Proceeds grant worker deed after) :
    crew.session.readings ≤ after.session.readings := by
  cases proceeds with
  | step _ advances => exact advances.readings_le
  | _ => exact Nat.le_refl _

theorem Proceeds.stage_of_ne (proceeds : crew.Proceeds grant worker deed after) {other : Worker}
    (different : other ≠ worker) : after.stage other = crew.stage other := by
  cases proceeds with
  | step _ advances => exact advances.stage_of_ne different
  | _ => exact Function.update_of_ne different _ _

/-- A worker complains only of a token whose rejection is noted. -/
theorem Proceeds.rejected_of_spurned (proceeds : crew.Proceeds grant worker deed after)
    {token : String} (spurned : after.stage worker = .spurned token) :
    .rejected token ∈ Note.between (crew.stage worker) (after.stage worker) := by
  cases proceeds with
  | step honest advances =>
      cases advances with
      | look _ _ looks | lookAgain _ looks =>
          cases looks <;> simp [settle, Stage.afterLook] at spurned
      | complain => exact absurd rfl honest
      | leave | enter | ask | granted | refused | keep | abandon | forget =>
          simp [settle, shift] at spurned
  | @call held errand outcome source holding _ =>
      have arrives : Stage.afterCall held outcome = .spurned token := by
        simpa [shift] using spurned
      rw [holding, spurned]
      rcases Stage.afterCall_cases held outcome with leads | leads
      · rw [leads] at arrives
        cases arrives
      · rw [leads] at arrives
        cases arrives
        exact List.mem_singleton_self _
  | comeAgain => simp [shift] at spurned

/-- What is remembered changes only when a worker keeps its token, or has one forgotten. -/
theorem Proceeds.token_cases (proceeds : crew.Proceeds grant worker deed after) :
    after.session.token = crew.session.token ∨
      (∃ fresh, crew.stage worker = .keeping fresh ∧ after.session.token = some fresh) ∨
      ∃ token, crew.stage worker = .spurned token ∧
        after.session.token = crew.session.token.filter (·.secret.expose != token) := by
  cases proceeds with
  | step _ advances =>
      cases advances with
      | look _ _ looks | lookAgain _ looks => exact .inl looks.token_eq
      | keep keeping => exact .inr (.inl ⟨_, keeping, rfl⟩)
      | forget spurned _ => exact .inr (.inr ⟨_, spurned, rfl⟩)
      | enter | ask | granted | refused | leave | abandon | complain => exact .inl rfl
  | _ => exact .inl rfl

/-! ## Rounds -/

variable {moves : List (Worker × Deed Source)} {notes : List Note}

/-- Rounds that go on after a deed have noted it. -/
theorem rounds_cons_eq_some_iff :
    crew.rounds grant ((worker, deed) :: moves) = some (final, notes) ↔
      ∃ after later, crew.proceed grant worker deed = some after ∧
        after.rounds grant moves = some (final, later) ∧
        notes = Note.between (crew.stage worker) (after.stage worker) ++ later := by
  rw [rounds]
  cases crew.proceed grant worker deed with
  | none => simp
  | some after =>
      simp only [Option.map_eq_some_iff, Prod.mk.injEq, Prod.exists, Option.some.injEq,
        exists_and_left, exists_eq_left']
      constructor
      · rintro ⟨last, later, went, rfl, rfl⟩
        exact ⟨later, went, rfl⟩
      · rintro ⟨later, went, rfl⟩
        exact ⟨final, later, went, rfl, rfl⟩

theorem readings_le_of_rounds (ran : crew.rounds grant moves = some (final, notes)) :
    crew.session.readings ≤ final.session.readings := by
  induction moves generalizing crew notes with
  | nil =>
      cases ran
      exact Nat.le_refl _
  | cons move rest ih =>
      obtain ⟨after, later, proceeded, went, -⟩ := rounds_cons_eq_some_iff.mp ran
      exact Nat.le_trans (proceeds_of_proceed proceeded).readings_le (ih went)

theorem Sound.rounds (sound : crew.Sound)
    (ran : crew.rounds grant moves = some (final, notes)) : final.Sound := by
  induction moves generalizing crew notes with
  | nil =>
      cases ran
      exact sound
  | cons move rest ih =>
      obtain ⟨after, later, proceeded, went, -⟩ := rounds_cons_eq_some_iff.mp ran
      exact ih ((proceeds_of_proceed proceeded).sound sound) went

theorem rounds_append {first second : List (Worker × Deed Source)} {earlier later : List Note}
    (here : crew.rounds grant first = some (middle, earlier))
    (there : middle.rounds grant second = some (final, later)) :
    crew.rounds grant (first ++ second) = some (final, earlier ++ later) := by
  induction first generalizing crew earlier with
  | nil =>
      cases here
      exact there
  | cons move rest ih =>
      obtain ⟨after, noted, proceeded, went, rfl⟩ := rounds_cons_eq_some_iff.mp here
      rw [List.append_assoc]
      exact rounds_cons_eq_some_iff.mpr ⟨after, _, proceeded, ih went, rfl⟩

end Crew

end HostedCheckout
