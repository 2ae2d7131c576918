import HostedCheckout.Gateway.Crew

/-!
# Rounds

The workers of a crew make rounds.  In each, a worker obtains a token and calls the
gateway with it.  If the gateway rejects the token, the worker sees to it that it is
forgotten.  Then it comes again.  What becomes of tokens is noted as it happens.
-/

namespace HostedCheckout

/-- A call that a worker makes with its token. -/
abbrev Errand (Source : Type) := String → Source → Except GatewayError Unit × Source

/-- What a worker does in its rounds. -/
inductive Deed (Source : Type) where
  /-- A step towards a token, or the one that has it forgotten. -/
  | step (act : Act)
  | call (errand : Errand Source)
  | comeAgain

/-- What becomes of a token. -/
inductive Note where
  /-- It is granted to a worker that has asked for one. -/
  | granted (fresh : AccessToken)
  /-- It is remembered. -/
  | kept (fresh : AccessToken)
  /-- A call that was made with it is rejected. -/
  | rejected (token : String)
  deriving DecidableEq

namespace Note

/-- What is noted when a worker goes from one stage to another. -/
def between : Stage → Stage → List Note
  | .asking _, .keeping fresh => [granted fresh]
  | .keeping fresh, .holding _ => [kept fresh]
  | .holding _, .spurned token => [rejected token]
  | _, _ => []

/-- The token that is granted, if the note says so. -/
def granted? : Note → Option AccessToken
  | granted fresh => some fresh
  | _ => none

/-- The token that is rejected, if the note says so. -/
def rejected? : Note → Option String
  | rejected token => some token
  | _ => none

end Note

/-- Where a call with a token leads. -/
def Stage.afterCall (token : String) : Except GatewayError Unit → Stage
  | .ok () => gone
  | .error error => if error.isUnauthorized then spurned token else gone

namespace Crew

variable {Worker Source : Type} [DecidableEq Worker]

/-- The next deed of a worker, if it can be done.  Only the gateway rejects tokens, so
no worker complains of its own accord. -/
def proceed (grant : Grant Source) (crew : Crew Worker Source) (worker : Worker) :
    Deed Source → Option (Crew Worker Source)
  | .step .complain => none
  | .step act => crew.advance grant worker act
  | .call errand =>
      match crew.stage worker with
      | .holding token =>
          let (outcome, source) := errand token crew.session.source
          let called := { crew with session := { crew.session with source := source } }
          some (called.shift worker (.afterCall token outcome))
      | _ => none
  | .comeAgain =>
      match crew.stage worker with
      | .gone | .failed _ => some (crew.shift worker .arriving)
      | _ => none

/-- Make rounds: the deeds are done one after another, if all of them can be done, and
what becomes of tokens is noted. -/
def rounds (grant : Grant Source) : List (Worker × Deed Source) → Crew Worker Source →
    Option (Crew Worker Source × List Note)
  | [], crew => some (crew, [])
  | (worker, deed) :: rest, crew =>
      match crew.proceed grant worker deed with
      | none => none
      | some after =>
          let noted := Note.between (crew.stage worker) (after.stage worker)
          (rounds grant rest after).map fun (last, later) => (last, noted ++ later)

end Crew

end HostedCheckout
