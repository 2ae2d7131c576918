import HostedCheckout.Gateway.Token

/-!
# Sessions

A session remembers the token that was granted last and asks its source for
another only when there is none, or when the remembered one has expired or is
about to.  How early a token counts as expired is the session's margin.  The
clock is read once for every look at a remembered token.
-/

namespace HostedCheckout

/-- A session: the remembered token, the margin and the readings of the clock in
nanoseconds, and the source of tokens. -/
structure Session (Source : Type) where
  token : Option AccessToken
  margin : Int
  clock : Nat → Int
  readings : Nat
  source : Source

/-- Why an operation of a session ends without a result. -/
inductive Halt (Error : Type) where
  | failed (error : Error)
  /-- The clock and the margin together lie outside the calendar. -/
  | clockOutOfRange

/-- An operation of a session. -/
abbrev Operation (Source Error Result : Type) :=
  ExceptT (Halt Error) (StateM (Session Source)) Result

/-- Asking a source for a token. -/
abbrev Grant (Source : Type) := Source → Except GatewayError AccessToken × Source

/-- Report failures in other words. -/
def Operation.mapError {Source Error Other Result : Type} (rename : Error → Other)
    (operation : Operation Source Error Result) : Operation Source Other Result := fun session =>
  let outcome := operation session
  (match outcome.1 with
    | .ok result => .ok result
    | .error (.failed error) => .error (.failed (rename error))
    | .error .clockOutOfRange => .error .clockOutOfRange, outcome.2)

namespace Session

variable {Source Error : Type}

/-- Fail. -/
def fail {Result : Type} (error : Error) : Operation Source Error Result :=
  throw (.failed error)

/-- End as a computation without effects ended. -/
def conclude {Result : Type} : Except Error Result → Operation Source Error Result
  | .ok result => pure result
  | .error error => fail error

/-- Let the source do something. -/
def ask {Result : Type} (action : Source → Except Error Result × Source) :
    Operation Source Error Result := fun session =>
  let answer := action session.source
  (match answer.1 with
    | .ok result => .ok result
    | .error error => .error (.failed error), { session with source := answer.2 })

/-- Read the clock and add the margin. -/
def shiftedTime : Operation Source Error Instant := do
  let session ← get
  set { session with readings := session.readings + 1 }
  match Instant.ofNanoseconds? (session.clock session.readings + session.margin) with
  | some instant => pure instant
  | none => throw .clockOutOfRange

/-- The remembered token, if it can still be used.  Without one the clock is not
read. -/
def usableToken? : Operation Source Error (Option AccessToken) := do
  match (← get).token with
  | none => return none
  | some token =>
      if token.isUsableAt (← shiftedTime) then return some token else return none

/-- Ask for a token and remember it.  A token that was not granted leaves
everything as it was. -/
def refresh (grant : Grant Source) : Operation Source GatewayError AccessToken := do
  let fresh ← ask grant
  modify fun session => { session with token := some fresh }
  return fresh

/-- A token to work with.  The remembered one is looked at again once the right
to refresh has been gained, since another caller may have refreshed it. -/
def obtainToken (grant : Grant Source) : Operation Source GatewayError String := do
  match ← usableToken? with
  | some token => return token.secret.expose
  | none =>
      match ← usableToken? with
      | some token => return token.secret.expose
      | none => return (← refresh grant).secret.expose

/-- Forget the remembered token if it is the rejected one. -/
def forget (rejected : String) : Operation Source Error Unit :=
  modify fun session =>
    if session.token.any (·.secret.expose == rejected) then { session with token := none }
    else session

/-- So many callers that start together.  They queue for the right to refresh,
and each looks at the remembered token when its turn comes. -/
def obtainTokens (grant : Grant Source) (count : Nat) :
    StateM (Session Source) (List (Except (Halt GatewayError) String)) :=
  (List.replicate count ()).mapM fun _ => (obtainToken grant).run

end Session

end HostedCheckout
