import HostedCheckout.Gateway.Session
import Mathlib.Logic.Function.Basic

/-!
# Crews

The workers of a crew share a session, and their steps are taken in any order.
A worker that wants a token looks at the remembered one.  If it cannot be used, the
worker waits for the right to refresh, which one worker has at a time, looks again,
and asks the source; nobody else looks while it has the right.  A worker may be
sent away whenever it has to wait, and the right is then given back.

A worker comes for one token.  When the gateway rejects it, the worker sees to it
that the token is forgotten.  One that comes again counts as another.
-/

namespace HostedCheckout

/-- How far a worker has come. -/
inductive Stage where
  /-- It has not looked yet. -/
  | arriving
  /-- It has found nothing usable, and waits for the right to refresh. -/
  | queuing
  /-- It has the right to refresh. -/
  | entered
  /-- It has looked again and found nothing usable. -/
  | cleared
  /-- It has asked for a token, and the answer is on its way. -/
  | asking (answer : Except GatewayError AccessToken)
  /-- It was granted a token, which is not remembered yet. -/
  | keeping (fresh : AccessToken)
  /-- It has a token to work with. -/
  | holding (token : String)
  /-- Its token was rejected. -/
  | spurned (token : String)
  /-- It has ended without a token. -/
  | failed (halt : Halt GatewayError)
  /-- It has left. -/
  | gone

namespace Stage

/-- Whether a worker has the right to refresh. -/
def isInside : Stage → Bool
  | entered | cleared | asking _ | keeping _ => true
  | _ => false

/-- Where a look leads, when one that finds nothing usable leads to some stage. -/
def afterLook (missed : Stage) : Except (Halt GatewayError) (Option AccessToken) → Stage
  | .ok (some token) => holding token.secret.expose
  | .ok none => missed
  | .error halt => failed halt

end Stage

/-- What a worker does in a step. -/
inductive Act where
  | look
  | enter
  | lookAgain
  | ask
  | receive
  | keep
  | leave
  | complain
  | forget
  deriving DecidableEq, Repr

/-- A crew: the shared session, the worker that has the right to refresh, and how
far each worker has come. -/
structure Crew (Worker Source : Type) where
  session : Session Source
  refresher : Option Worker
  stage : Worker → Stage

namespace Crew

variable {Worker Source : Type}

/-- A crew that has just come together. -/
def gathered (session : Session Source) : Crew Worker Source :=
  ⟨session, none, fun _ => .arriving⟩

variable [DecidableEq Worker]

/-- A worker moves on, and the session and the right to refresh stay. -/
def shift (crew : Crew Worker Source) (worker : Worker) (stage : Stage) : Crew Worker Source :=
  { crew with stage := Function.update crew.stage worker stage }

/-- A worker moves on while no other has the right to refresh, and has it
afterwards if its stage needs it. -/
def settle (crew : Crew Worker Source) (worker : Worker) (stage : Stage)
    (session : Session Source) : Crew Worker Source where
  session := session
  refresher := if stage.isInside then some worker else none
  stage := Function.update crew.stage worker stage

/-- The next step of a worker, if it can be taken. -/
def advance (grant : Grant Source) (crew : Crew Worker Source) (worker : Worker) (act : Act) :
    Option (Crew Worker Source) :=
  match crew.stage worker, act with
  | .arriving, .look =>
      if crew.refresher.isSome then none
      else
        let (found, session) := Session.usableToken? crew.session
        some (crew.settle worker (.afterLook .queuing found) session)
  | .queuing, .enter =>
      if crew.refresher.isSome then none
      else some (crew.settle worker .entered crew.session)
  | .entered, .lookAgain =>
      let (found, session) := Session.usableToken? crew.session
      some (crew.settle worker (.afterLook .cleared found) session)
  | .cleared, .ask =>
      let (answer, source) := grant crew.session.source
      some (crew.settle worker (.asking answer) { crew.session with source := source })
  | .asking (.ok fresh), .receive => some (crew.settle worker (.keeping fresh) crew.session)
  | .asking (.error error), .receive =>
      some (crew.settle worker (.failed (.failed error)) crew.session)
  | .keeping fresh, .keep =>
      some (crew.settle worker (.holding fresh.secret.expose)
        { crew.session with token := some fresh })
  | .arriving, .leave | .queuing, .leave => some (crew.shift worker .gone)
  | .asking _, .leave => some (crew.settle worker .gone crew.session)
  | .holding token, .complain => some (crew.shift worker (.spurned token))
  | .spurned token, .forget =>
      if crew.refresher.isSome then none
      else
        let forget : Operation Source GatewayError Unit := Session.forget token
        some (crew.settle worker .gone (forget crew.session).2)
  | _, _ => none

/-- Take steps one after another, if all of them can be taken. -/
def run (grant : Grant Source) : List (Worker × Act) → Crew Worker Source →
    Option (Crew Worker Source)
  | [], crew => some crew
  | (worker, act) :: rest, crew => (crew.advance grant worker act).bind (run grant rest)

end Crew

end HostedCheckout
