import HostedCheckout.Proofs.Session.Looks

/-!
# Looks that break off

A look at the remembered token breaks off when the clock and the margin together
leave the calendar.  Without a token there is no look, and asking for one does
not look at the clock.
-/

namespace HostedCheckout

namespace Session

variable {Source : Type} {session : Session Source}

/-- One of the two looks that come next finds the clock outside the calendar. -/
def Overruns (session : Session Source) : Prop :=
  session.token.isSome = true ∧
    (session.judgedAt session.readings = none ∨
      session.holdsUsable session.readings = false ∧
        session.judgedAt (session.readings + 1) = none)

/-- A look breaks off exactly when there is a token to look at, and the clock is
outside the calendar. -/
theorem usableToken?_overruns_iff (session : Session Source) :
    (usableToken? session : Except (Halt GatewayError) _ × _).1 = .error .clockOutOfRange ↔
      session.token.isSome = true ∧ session.judgedAt session.readings = none := by
  cases held : session.token with
  | none =>
      rw [usableToken?_of_empty held]
      simp
  | some token =>
      rw [usableToken?_of_held held]
      cases session.judgedAt session.readings <;> simp

/-- Asking for a token does not look at the clock. -/
theorem refresh_ne_clockOutOfRange (grant : Grant Source) (session : Session Source) :
    ((do
      let token ← refresh grant
      return token.secret.expose : Operation Source GatewayError String) session).1 ≠
        .error .clockOutOfRange := by
  rcases asked : grant session.source with ⟨error | token, source⟩
  · rw [Operation.bind_of_error (refresh_of_error asked)]
    exact fun same => nomatch same
  · rw [Operation.bind_of_ok (refresh_of_ok asked)]
    exact fun same => nomatch same

/-- What is left of obtaining a token after a look that has found nothing breaks
off exactly when the second look does. -/
theorem second_look_overruns_iff (grant : Grant Source) (session : Session Source) :
    ((do
      match ← usableToken? with
      | some token => return token.secret.expose
      | none => return (← refresh grant).secret.expose :
        Operation Source GatewayError String) session).1 = .error .clockOutOfRange ↔
      session.token.isSome = true ∧ session.judgedAt session.readings = none := by
  rw [← usableToken?_overruns_iff]
  rcases looked : (usableToken? session : Except (Halt GatewayError) _ × _) with
    ⟨halt | _ | token, after⟩
  · rw [Operation.bind_of_error looked]
    simp
  · rw [Operation.bind_of_ok looked]
    simpa using refresh_ne_clockOutOfRange grant after
  · rw [Operation.bind_of_ok looked]
    exact ⟨(fun same => nomatch same), (fun same => nomatch same)⟩

/-- Obtaining a token breaks off exactly when one of its looks does. -/
theorem obtainToken_overruns_iff (grant : Grant Source) (session : Session Source) :
    (obtainToken grant session).1 = .error .clockOutOfRange ↔ session.Overruns := by
  unfold obtainToken Overruns
  cases held : session.token with
  | none =>
      rw [Operation.bind_of_ok (usableToken?_of_empty held)]
      exact (second_look_overruns_iff grant session).trans (by simp [held])
  | some token =>
      have looks := looks_usableToken? session
      generalize looked : (usableToken? session : Except (Halt GatewayError) _ × _) = result
        at looks
      cases looks with
      | empty empty =>
          rw [held] at empty
          cases empty
      | unreadable unjudged =>
          rw [Operation.bind_of_error looked]
          simp [unjudged]
      | usable remembered accepted =>
          have found : session.holdsUsable session.readings = true := by
            simp [holdsUsable, remembered, accepted]
          have judged : session.judgedAt session.readings ≠ none := by
            intro unjudged
            simp [accepts, unjudged] at accepted
          rw [Operation.bind_of_ok looked]
          refine iff_of_false (fun same => ?_) (by simp [found, judged])
          cases same
      | lapsed remembered judged unusable =>
          have lapsed := Looks.holdsUsable_eq_false (.lapsed remembered judged unusable)
          rw [Operation.bind_of_ok looked]
          refine (second_look_overruns_iff grant _).trans ?_
          change session.token.isSome = true ∧ session.judgedAt (session.readings + 1) = none ↔ _
          simp [remembered, judged, lapsed]

end Session

end HostedCheckout
