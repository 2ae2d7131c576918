import HostedCheckout.Proofs.Session.Operations

/-!
# Looking at the remembered token

A look at the remembered token ends in one of four ways, and obtaining a token,
which looks twice before it asks its source, in one of four as well.  Neither
look changes anything but the number of readings.
-/

namespace HostedCheckout

variable {Source : Type}

theorem Instant.before_iff {first second : Instant} :
    first.before second = true ↔
      first.seconds < second.seconds ∨
        first.seconds = second.seconds ∧ first.nanos < second.nanos := by
  simp [before]

/-- What lies before an instant lies before it at any earlier time. -/
theorem Instant.before_of_le {earlier later : Int} {first second limit : Instant}
    (order : earlier ≤ later) (firstEq : ofNanoseconds? earlier = some first)
    (secondEq : ofNanoseconds? later = some second) (reached : second.before limit = true) :
    first.before limit = true := by
  unfold ofNanoseconds? at firstEq secondEq
  split at firstEq
  · split at secondEq
    · cases firstEq
      cases secondEq
      rw [before_iff] at reached ⊢
      simp only [perSecond] at reached ⊢
      omega
    · exact absurd secondEq (Option.some_ne_none _).symm
  · exact absurd firstEq (Option.some_ne_none _).symm

namespace Session

/-- The instant that a reading of the clock stands for once the margin is added. -/
def judgedAt (session : Session Source) (reading : Nat) : Option Instant :=
  Instant.ofNanoseconds? (session.clock reading + session.margin)

/-- Whether a token can be used at a reading of the clock. -/
def accepts (session : Session Source) (token : AccessToken) (reading : Nat) : Bool :=
  (session.judgedAt reading).any token.isUsableAt

/-- Whether a token can be used at a reading of the clock, and is remembered. -/
def holdsUsable (session : Session Source) (reading : Nat) : Bool :=
  session.token.any (session.accepts · reading)

/-- Neither of the two looks that come next finds a usable token. -/
def lacksUsable (session : Session Source) : Prop :=
  session.holdsUsable session.readings = false ∧
    session.holdsUsable (session.readings + 1) = false

/-- No reading of the clock lies outside the calendar once the margin is added. -/
def Representable (session : Session Source) : Prop :=
  ∀ reading, (session.judgedAt reading).isSome

/-- While the clock does not go back, the second look finds nothing that the
first has not found. -/
theorem lacksUsable_iff {session : Session Source} (representable : session.Representable)
    (steady : session.clock session.readings ≤ session.clock (session.readings + 1)) :
    session.lacksUsable ↔ session.holdsUsable session.readings = false := by
  constructor
  · exact And.left
  · intro first
    refine ⟨first, ?_⟩
    cases held : session.token with
    | none => simp [holdsUsable, held]
    | some token =>
        obtain ⟨earlier, earlierEq⟩ := Option.isSome_iff_exists.mp (representable session.readings)
        obtain ⟨later, laterEq⟩ :=
          Option.isSome_iff_exists.mp (representable (session.readings + 1))
        have order : session.clock session.readings + session.margin ≤
            session.clock (session.readings + 1) + session.margin := by omega
        simp only [holdsUsable, held, accepts, earlierEq, laterEq, Option.any_some] at first ⊢
        rw [Bool.eq_false_iff] at first ⊢
        exact fun usable => first (Instant.before_of_le order earlierEq laterEq usable)

theorem shiftedTime_eq (session : Session Source) :
    (shiftedTime : Operation Source GatewayError Instant) session =
      ((match session.judgedAt session.readings with
        | some now => .ok now
        | none => .error .clockOutOfRange), { session with readings := session.readings + 1 }) := by
  have run : (shiftedTime : Operation Source GatewayError Instant) session =
      (match session.judgedAt session.readings with
        | some now => (pure now : Operation Source GatewayError Instant)
        | none => throw Halt.clockOutOfRange)
        { session with readings := session.readings + 1 } := rfl
  rw [run]
  cases session.judgedAt session.readings <;> rfl

/-- Without a remembered token there is nothing to look at. -/
theorem usableToken?_of_empty {session : Session Source} (empty : session.token = none) :
    (usableToken? : Operation Source GatewayError (Option AccessToken)) session =
      (.ok none, session) := by
  obtain ⟨token, margin, clock, readings, source⟩ := session
  obtain rfl : token = none := empty
  rfl

/-- A remembered token is looked at, at one reading of the clock. -/
theorem usableToken?_of_held {session : Session Source} {token : AccessToken}
    (held : session.token = some token) :
    (usableToken? : Operation Source GatewayError (Option AccessToken)) session =
      ((session.judgedAt session.readings).elim (.error .clockOutOfRange)
        fun now => .ok (if token.isUsableAt now then some token else none),
      { session with readings := session.readings + 1 }) := by
  obtain ⟨remembered, margin, clock, readings, source⟩ := session
  obtain rfl : remembered = some token := held
  have opened : (get : Operation Source GatewayError (Session Source))
      ⟨some token, margin, clock, readings, source⟩ =
        (.ok ⟨some token, margin, clock, readings, source⟩,
          ⟨some token, margin, clock, readings, source⟩) := rfl
  have shifted := shiftedTime_eq ⟨some token, margin, clock, readings, source⟩
  unfold usableToken?
  rw [Operation.bind_of_ok opened]
  dsimp only at shifted ⊢
  cases judged : judgedAt ⟨some token, margin, clock, readings, source⟩ readings with
  | none =>
      rw [judged] at shifted
      rw [Operation.bind_of_error shifted]
      rfl
  | some now =>
      rw [judged] at shifted
      rw [Operation.bind_of_ok shifted, Option.elim_some]
      split <;> rfl

/-- How a look at the remembered token ends. -/
inductive Looks (session : Session Source) :
    Except (Halt GatewayError) (Option AccessToken) × Session Source → Prop
  | empty : session.token = none → Looks session (.ok none, session)
  | unreadable : session.judgedAt session.readings = none →
      Looks session
        (.error .clockOutOfRange, { session with readings := session.readings + 1 })
  | usable {token : AccessToken} : session.token = some token →
      session.accepts token session.readings = true →
      Looks session (.ok (some token), { session with readings := session.readings + 1 })
  | lapsed {token : AccessToken} {now : Instant} : session.token = some token →
      session.judgedAt session.readings = some now → token.isUsableAt now = false →
      Looks session (.ok none, { session with readings := session.readings + 1 })

theorem looks_usableToken? (session : Session Source) :
    session.Looks (usableToken? session) := by
  have opened : (get : Operation Source GatewayError (Session Source)) session =
      (.ok session, session) := rfl
  have shifted := shiftedTime_eq session
  unfold usableToken?
  rw [Operation.bind_of_ok opened]
  cases held : session.token with
  | none => exact .empty held
  | some token =>
      cases judged : session.judgedAt session.readings with
      | none =>
          rw [judged] at shifted
          dsimp only
          rw [Operation.bind_of_error shifted]
          exact .unreadable judged
      | some now =>
          rw [judged] at shifted
          dsimp only
          rw [Operation.bind_of_ok shifted]
          cases usable : token.isUsableAt now with
          | true => exact .usable held (by simp [accepts, judged, usable])
          | false => exact .lapsed held judged usable

/-- How obtaining a token ends.  Whatever the end, the clock, the margin and
what was remembered are those of before, unless a token was granted. -/
inductive Obtains (grant : Grant Source) (session : Session Source) :
    Except (Halt GatewayError) String × Session Source → Prop
  | unreadable {reading readings : Nat} : session.judgedAt reading = none →
      Obtains grant session (.error .clockOutOfRange, { session with readings := readings })
  | remembered {token : AccessToken} {reading : Nat} : session.token = some token →
      reading = session.readings ∨ reading = session.readings + 1 →
      session.accepts token reading = true →
      Obtains grant session
        (.ok token.secret.expose, { session with readings := reading + 1 })
  | refused {error : GatewayError} {source : Source} {readings : Nat} :
      session.lacksUsable → grant session.source = (.error error, source) →
      Obtains grant session
        (.error (.failed error), { session with readings := readings, source := source })
  | granted {token : AccessToken} {source : Source} {readings : Nat} :
      session.lacksUsable → grant session.source = (.ok token, source) →
      Obtains grant session
        (.ok token.secret.expose,
          { session with token := some token, readings := readings, source := source })

theorem refresh_of_ok {grant : Grant Source} {session : Session Source} {token : AccessToken}
    {source : Source} (granted : grant session.source = (.ok token, source)) :
    refresh grant session =
      (.ok token, { session with token := some token, source := source }) := by
  have asked : ask grant session = (.ok token, { session with source := source }) := by
    simp only [ask, granted]
  unfold refresh
  rw [Operation.bind_of_ok asked]
  rfl

theorem refresh_of_error {grant : Grant Source} {session : Session Source} {error : GatewayError}
    {source : Source} (refused : grant session.source = (.error error, source)) :
    refresh grant session = (.error (.failed error), { session with source := source }) := by
  have asked : ask grant session = (.error (.failed error), { session with source := source }) := by
    simp only [ask, refused]
  unfold refresh
  rw [Operation.bind_of_error asked]

section Looked

variable {session after : Session Source} {found : Except (Halt GatewayError) (Option AccessToken)}
  (looked : session.Looks (found, after))
include looked

theorem Looks.token_eq : after.token = session.token := by
  cases looked <;> rfl

theorem Looks.accepts_eq : after.accepts = session.accepts := by
  cases looked <;> rfl

theorem Looks.readings_le : session.readings ≤ after.readings := by
  cases looked with
  | empty => exact Nat.le_refl _
  | _ => exact Nat.le_succ _

end Looked

/-- A look that ends without a token has found nothing usable at its reading. -/
theorem Looks.holdsUsable_eq_false {session after : Session Source}
    (looked : session.Looks (.ok none, after)) :
    session.holdsUsable session.readings = false := by
  cases looked with
  | empty held => simp [holdsUsable, held]
  | lapsed held judged unusable => simp [holdsUsable, accepts, held, judged, unusable]

/-- What is left of obtaining a token once neither look has found a usable one. -/
theorem obtains_of_refresh {grant : Grant Source} {session : Session Source}
    (lacks : session.lacksUsable) (readings : Nat) :
    session.Obtains grant
      ((do
        let token ← refresh grant
        return token.secret.expose : Operation Source GatewayError String)
        { session with readings := readings }) := by
  cases answered : grant session.source with
  | mk answer source =>
      cases answer with
      | ok token =>
          have refreshed : refresh grant { session with readings := readings } =
              (.ok token, { session with token := some token, readings, source }) :=
            refresh_of_ok answered
          rw [Operation.bind_of_ok refreshed]
          exact .granted lacks answered
      | error error =>
          have failed : refresh grant { session with readings := readings } =
              (.error (.failed error), { session with readings, source }) :=
            refresh_of_error answered
          rw [Operation.bind_of_error failed]
          exact .refused lacks answered

/-- What is left of obtaining a token after a look that has found nothing. -/
theorem obtains_of_second_look {grant : Grant Source} {session : Session Source} {readings : Nat}
    (first : session.holdsUsable session.readings = false)
    (moved : session.token = none ∨ readings = session.readings + 1) :
    session.Obtains grant
      ((do
        match ← usableToken? with
        | some token => return token.secret.expose
        | none => return (← refresh grant).secret.expose :
          Operation Source GatewayError String) { session with readings := readings }) := by
  have looks := looks_usableToken? { session with readings := readings }
  generalize looked : (usableToken? : Operation Source GatewayError (Option AccessToken))
    { session with readings := readings } = result at looks
  cases looks with
  | empty held =>
      rw [Operation.bind_of_ok looked]
      simp only at held
      exact obtains_of_refresh ⟨first, by simp [holdsUsable, held]⟩ readings
  | unreadable unjudged =>
      rw [Operation.bind_of_error looked]
      exact .unreadable unjudged
  | usable held accepted =>
      rw [Operation.bind_of_ok looked]
      rcases moved with empty | rfl
      · simp only at held
        rw [empty] at held
        contradiction
      · exact .remembered held (.inr rfl) accepted
  | lapsed held judged unusable =>
      rw [Operation.bind_of_ok looked]
      rcases moved with empty | rfl
      · simp only at held
        rw [empty] at held
        contradiction
      · let later := { session with readings := session.readings + 1 }
        have second : later.holdsUsable later.readings = false :=
          Looks.holdsUsable_eq_false (.lapsed held judged unusable)
        exact obtains_of_refresh ⟨first, second⟩ (session.readings + 1 + 1)

theorem obtains_obtainToken (grant : Grant Source) (session : Session Source) :
    session.Obtains grant (obtainToken grant session) := by
  have first := looks_usableToken? session
  generalize looked : (usableToken? : Operation Source GatewayError (Option AccessToken)) session =
    result at first
  unfold obtainToken
  cases first with
  | empty held =>
      rw [Operation.bind_of_ok looked]
      exact obtains_of_second_look (by simp [holdsUsable, held]) (.inl held)
  | unreadable unjudged =>
      rw [Operation.bind_of_error looked]
      exact .unreadable unjudged
  | usable held accepted =>
      rw [Operation.bind_of_ok looked]
      exact .remembered held (.inl rfl) accepted
  | lapsed held judged unusable =>
      rw [Operation.bind_of_ok looked]
      exact obtains_of_second_look
        (Looks.holdsUsable_eq_false (.lapsed held judged unusable))
        (.inr rfl)

end Session

end HostedCheckout
