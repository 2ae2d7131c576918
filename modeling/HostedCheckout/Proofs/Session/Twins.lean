import HostedCheckout.Merchant.Intents
import HostedCheckout.Proofs.Session.Looks

/-!
# Operations that cannot be told apart

Two sessions are twins when only their sources differ, and those are related.  Two
operations are twins when they take twins to twins and end alike.  Every way in which
operations are put together passes this on, so that it has to be shown for what is
asked of the sources alone.
-/

namespace HostedCheckout

variable {Source Error α β : Type} {related : Source → Source → Prop}

/-- Sessions of which only the sources differ, and those are related. -/
structure Session.Twins (related : Source → Source → Prop) (first second : Session Source) :
    Prop where
  token_eq : first.token = second.token
  margin_eq : first.margin = second.margin
  clock_eq : first.clock = second.clock
  readings_eq : first.readings = second.readings
  source : related first.source second.source

/-- Actions that answer alike from related sources, and leave related ones. -/
def Agree (related : Source → Source → Prop) (first second : Source → Except Error α × Source) :
    Prop :=
  ∀ ⦃here there⦄, related here there →
    (first here).1 = (second there).1 ∧ related (first here).2 (second there).2

namespace Operation

/-- Operations that end alike from twins, and leave twins. -/
def Twins (related : Source → Source → Prop) (first second : Operation Source Error α) : Prop :=
  ∀ ⦃here there : Session Source⦄, here.Twins related there →
    (first here).1 = (second there).1 ∧ (first here).2.Twins related (second there).2

namespace Twins

/-- The outcome that twins share. -/
theorem ends {first second : Operation Source Error α} (twins : Twins related first second)
    {here there : Session Source} (alike : here.Twins related there) :
    ∃ outcome left right, first here = (outcome, left) ∧ second there = (outcome, right) ∧
      left.Twins related right := by
  obtain ⟨same, after⟩ := twins alike
  exact ⟨(first here).1, (first here).2, (second there).2, rfl, Prod.ext same.symm rfl, after⟩

theorem pure (value : α) :
    Twins related (pure value : Operation Source Error α) (Pure.pure value) :=
  fun _ _ twins => ⟨rfl, twins⟩

theorem fail (error : Error) :
    Twins related (Session.fail error : Operation Source Error α) (Session.fail error) :=
  fun _ _ twins => ⟨rfl, twins⟩

theorem conclude (result : Except Error α) :
    Twins related (Session.conclude result : Operation Source Error α)
      (Session.conclude result) := by
  cases result with
  | ok value => exact pure value
  | error error => exact fail error

theorem bind {first second : Operation Source Error α}
    {next other : α → Operation Source Error β} (begun : Twins related first second)
    (continued : ∀ result, Twins related (next result) (other result)) :
    Twins related (first >>= next) (second >>= other) := by
  intro here there alike
  obtain ⟨halt | result, left, right, ended, endedToo, after⟩ := begun.ends alike
  · rw [bind_of_error ended, bind_of_error endedToo]
    exact ⟨rfl, after⟩
  · rw [bind_of_ok ended, bind_of_ok endedToo]
    exact continued result after

theorem map {first second : Operation Source Error α} (function : α → β)
    (twins : Twins related first second) :
    Twins related (function <$> first) (function <$> second) := by
  intro here there alike
  obtain ⟨same, left⟩ := twins alike
  rw [map_eq, map_eq, same]
  exact ⟨rfl, left⟩

theorem mapError {Other : Type} {first second : Operation Source Error α}
    (rename : Error → Other) (twins : Twins related first second) :
    Twins related (first.mapError rename) (second.mapError rename) := by
  intro here there alike
  obtain ⟨outcome, left, right, ended, endedToo, after⟩ := twins.ends alike
  unfold Operation.mapError
  rw [ended, endedToo]
  exact ⟨rfl, after⟩

theorem ask {first second : Source → Except Error α × Source}
    (agree : Agree related first second) :
    Twins related (Session.ask first) (Session.ask second) := by
  intro here there twins
  obtain ⟨same, left⟩ := agree twins.source
  dsimp only [Session.ask]
  rw [same]
  exact ⟨rfl, { twins with source := left }⟩

end Twins

/-- A look depends on nothing in which twins differ. -/
theorem twins_usableToken? :
    Twins related (Session.usableToken? : Operation Source GatewayError (Option AccessToken))
      Session.usableToken? := by
  rintro ⟨token, margin, clock, readings, here⟩ ⟨_, _, _, _, there⟩ ⟨rfl, rfl, rfl, rfl, sources⟩
  cases token with
  | none =>
      rw [Session.usableToken?_of_empty rfl, Session.usableToken?_of_empty rfl]
      exact ⟨rfl, rfl, rfl, rfl, rfl, sources⟩
  | some token =>
      rw [Session.usableToken?_of_held rfl, Session.usableToken?_of_held rfl]
      exact ⟨rfl, rfl, rfl, rfl, rfl, sources⟩

theorem twins_refresh {first second : Grant Source} (agree : Agree related first second) :
    Twins related (Session.refresh first) (Session.refresh second) := by
  refine (Twins.ask agree).bind fun fresh => ?_
  intro here there twins
  exact ⟨rfl, { twins with token_eq := rfl }⟩

theorem twins_obtainToken {first second : Grant Source} (agree : Agree related first second) :
    Twins related (Session.obtainToken first) (Session.obtainToken second) := by
  refine twins_usableToken?.bind fun found => ?_
  cases found with
  | some token => exact Twins.pure _
  | none =>
      refine twins_usableToken?.bind fun foundLater => ?_
      cases foundLater with
      | some token => exact Twins.pure _
      | none => exact (twins_refresh agree).bind fun fresh => Twins.pure _

theorem twins_forgetRejected {first second : Operation Source GatewayError α} (token : String)
    (twins : Twins related first second) :
    Twins related (Session.forgetRejected token first) (Session.forgetRejected token second) := by
  intro here there alike
  obtain ⟨(error | _) | result, left, right, ended, endedToo, after⟩ := twins.ends alike
  · unfold Session.forgetRejected
    rw [ended, endedToo]
    dsimp only
    split
    · refine ⟨rfl, ?_⟩
      rw [Session.forget_snd, Session.forget_snd]
      exact { after with token_eq := by rw [after.token_eq] }
    · exact ⟨rfl, after⟩
  · unfold Session.forgetRejected
    rw [ended, endedToo]
    exact ⟨rfl, after⟩
  · unfold Session.forgetRejected
    rw [ended, endedToo]
    exact ⟨rfl, after⟩

end Operation

end HostedCheckout
