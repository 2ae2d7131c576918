import HostedCheckout.Gateway.Session

/-!
# Running operations

Whether an operation that is followed by another is continued depends on how it
ends.  Applying a function to the result, or putting errors in other words,
leaves the session that comes out alone.
-/

namespace HostedCheckout

namespace Operation

variable {Source Error Other α β : Type} {session after : Session Source}

theorem bind_of_ok {first : Operation Source Error α} {next : α → Operation Source Error β}
    {result : α} (firstEq : first session = (.ok result, after)) :
    (first >>= next : Operation Source Error β) session = next result after := by
  simp only [bind, ExceptT.bind, ExceptT.mk, StateT.bind, firstEq]
  rfl

theorem bind_of_error {first : Operation Source Error α} {next : α → Operation Source Error β}
    {halt : Halt Error} (firstEq : first session = (.error halt, after)) :
    (first >>= next : Operation Source Error β) session = (.error halt, after) := by
  simp only [bind, ExceptT.bind, ExceptT.mk, StateT.bind, firstEq]
  rfl

/-- An operation that only computes has no effect on what follows. -/
theorem conclude_bind_of_ok {result : Except Error α} {next : α → Operation Source Error β}
    {value : α} (resultEq : result = .ok value) (session : Session Source) :
    (Session.conclude result >>= next : Operation Source Error β) session = next value session := by
  subst resultEq
  exact bind_of_ok rfl

theorem conclude_bind_of_error {result : Except Error α} {next : α → Operation Source Error β}
    {error : Error} (resultEq : result = .error error) (session : Session Source) :
    (Session.conclude result >>= next : Operation Source Error β) session =
      (.error (.failed error), session) := by
  subst resultEq
  exact bind_of_error rfl

theorem map_eq (function : α → β) (operation : Operation Source Error α)
    (session : Session Source) :
    (function <$> operation : Operation Source Error β) session =
      ((operation session).1.map function, (operation session).2) := by
  rcases ran : operation session with ⟨_ | result, after⟩
  · rw [map_eq_pure_bind, bind_of_error ran]
    rfl
  · rw [map_eq_pure_bind, bind_of_ok ran]
    rfl

@[simp] theorem map_snd (function : α → β) (operation : Operation Source Error α)
    (session : Session Source) :
    ((function <$> operation : Operation Source Error β) session).2 = (operation session).2 := by
  rw [map_eq]

theorem map_fst_eq_ok_iff {function : α → β} {operation : Operation Source Error α} {result : β} :
    ((function <$> operation : Operation Source Error β) session).1 = .ok result ↔
      ∃ value, (operation session).1 = .ok value ∧ function value = result := by
  rw [map_eq]
  cases (operation session).1 <;> simp [Except.map]

@[simp] theorem mapError_snd (rename : Error → Other) (operation : Operation Source Error α)
    (session : Session Source) :
    (operation.mapError rename session).2 = (operation session).2 := rfl

theorem mapError_congr {first second : Operation Source Error α}
    (same : first session = second session) (rename : Error → Other) :
    first.mapError rename session = second.mapError rename session := by
  simp only [mapError, same]

theorem mapError_fst_eq_ok_iff {rename : Error → Other} {operation : Operation Source Error α}
    {result : α} :
    (operation.mapError rename session).1 = .ok result ↔ (operation session).1 = .ok result := by
  cases outcome : (operation session).1 with
  | ok => simp [mapError, outcome]
  | error halt => cases halt <;> simp [mapError, outcome]

end Operation

/-- A token that is rejected is forgotten, and any other is kept. -/
theorem Session.forget_snd {Source : Type} (rejected : String) (session : Session Source) :
    ((Session.forget rejected : Operation Source GatewayError Unit) session).2 =
      { session with token := session.token.filter (·.secret.expose != rejected) } := by
  have run : ((Session.forget rejected : Operation Source GatewayError Unit) session).2 =
      if session.token.any (·.secret.expose == rejected) then { session with token := none }
      else session := rfl
  rw [run]
  cases held : session.token with
  | none =>
      simp only [Option.any_none, Option.filter_none, Bool.false_eq_true, if_false]
      rw [← held]
  | some token =>
      by_cases same : token.secret.expose = rejected
      · simp [same, Option.filter]
      · simp only [Option.any_some, Option.filter, beq_iff_eq, same, if_false, bne_iff_ne, ne_eq,
          not_false_eq_true, if_true]
        rw [← held]

end HostedCheckout
