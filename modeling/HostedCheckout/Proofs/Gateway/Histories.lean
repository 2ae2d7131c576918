import HostedCheckout.Proofs.Gateway.Turns

/-!
# Histories of turns

What may be remembered after a number of turns is said twice.  A history is
built turn by turn, by a rule for each kind of turn.  The token that was granted
last, and the turns since, are looked up in the whole list of turns.  The main
statement is that both agree for a history that begins with nothing remembered,
and that every token carried in one was the one granted last.
-/

namespace HostedCheckout

/-- Whether a turn rejects a token: the request carried it, and the reply is a
rejection. -/
def Turn.rejects (turn : Turn) (token : AccessToken) : Bool :=
  turn.request.carries token.secret.expose && turn.reply.rejectsToken

namespace Account

/-- Whether a request is the one for a token. -/
def asks (account : Account) (request : Request) : Bool :=
  match account.grantDraft with
  | .ok draft => draft.request == request
  | .error _ => false

theorem asks_of_prepared {account : Account} {draft : Draft}
    (prepared : account.grantDraft = .ok draft) : account.asks draft.request = true := by
  simp [asks, prepared]

theorem asks_iff {account : Account} {draft : Draft} (prepared : account.grantDraft = .ok draft)
    {request : Request} : account.asks request = true ↔ request = draft.request := by
  simp only [asks, prepared, beq_iff_eq]
  exact eq_comm

theorem carries_of_asks {account : Account} {request : Request}
    (asked : account.asks request = true) (token : String) : request.carries token = false := by
  unfold asks at asked
  split at asked
  · rename_i draft prepared
    obtain rfl := eq_of_beq asked
    exact carries_grantDraft prepared token
  · exact absurd asked Bool.false_ne_true

theorem asks_of_carries {account : Account} {request : Request} {token : String}
    (carried : request.carries token = true) : account.asks request = false := by
  cases asked : account.asks request with
  | false => rfl
  | true =>
      rw [carries_of_asks asked token] at carried
      exact absurd carried Bool.false_ne_true

/-- The token that was granted last, and the turns since. -/
def lastGrant? (account : Account) : List Turn → Option (AccessToken × List Turn)
  | [] => none
  | turn :: later =>
      (account.lastGrant? later).or
        (if account.asks turn.request then turn.reply.granted?.map (·, later) else none)

/-- What is remembered after some turns: the token that was granted last, unless
it has been rejected since. -/
def remembered (account : Account) (turns : List Turn) : Option AccessToken :=
  (account.lastGrant? turns).bind fun (token, since) =>
    if since.any (·.rejects token) then none else some token

theorem lastGrant?_of_granted {account : Account} {turn : Turn} {token : AccessToken}
    (asked : account.asks turn.request = true) (granted : turn.reply.granted? = some token)
    (turns : List Turn) : account.lastGrant? (turns ++ [turn]) = some (token, []) := by
  induction turns with
  | nil => simp [lastGrant?, asked, granted]
  | cons first rest ih => simp [lastGrant?, ih]

theorem lastGrant?_of_not_granted {account : Account} {turn : Turn}
    (nothing : account.asks turn.request = true → turn.reply.granted? = none)
    (turns : List Turn) :
    account.lastGrant? (turns ++ [turn]) =
      (account.lastGrant? turns).map fun (token, since) => (token, since ++ [turn]) := by
  induction turns with
  | nil =>
      by_cases asked : account.asks turn.request = true
      · simp [lastGrant?, asked, nothing asked]
      · simp [lastGrant?, asked]
  | cons first rest ih =>
      simp only [List.cons_append, lastGrant?, ih]
      cases account.lastGrant? rest with
      | some grant => simp
      | none =>
          by_cases asked : account.asks first.request = true
          · cases first.reply.granted? <;> simp [asked]
          · simp [asked]

/-- A turn that neither grants a token nor rejects the one that was granted last
leaves what is remembered as it was. -/
theorem remembered_of_idle {account : Account} {turn : Turn} {turns : List Turn}
    (nothing : account.asks turn.request = true → turn.reply.granted? = none)
    (kept : ∀ token, account.remembered turns = some token → turn.rejects token = false) :
    account.remembered (turns ++ [turn]) = account.remembered turns := by
  simp only [remembered, lastGrant?_of_not_granted nothing] at kept ⊢
  cases latest : account.lastGrant? turns with
  | none => rfl
  | some grant =>
      rcases grant with ⟨token, since⟩
      simp only [latest, Option.map_some, Option.bind_some] at kept ⊢
      by_cases spurned : since.any (·.rejects token) = true
      · simp [List.any_append, spurned]
      · rw [if_neg spurned] at kept ⊢
        simp [List.any_append, spurned, kept token rfl]

/-- A token that is remembered is the one that was granted last. -/
theorem lastGrant?_of_remembered {account : Account} {turns : List Turn} {token : AccessToken}
    (held : account.remembered turns = some token) :
    ∃ since, account.lastGrant? turns = some (token, since) := by
  unfold remembered at held
  obtain ⟨⟨granted, since⟩, found, kept⟩ := Option.bind_eq_some_iff.mp held
  simp only at kept
  split at kept
  · exact absurd kept (Option.some_ne_none _).symm
  · obtain rfl := Option.some.inj kept
    exact ⟨since, found⟩

/-- Histories of an account: what is remembered after some turns, when a certain
token, or none, was remembered before the first. -/
inductive History (account : Account) (start : Option AccessToken) :
    List Turn → Option AccessToken → Prop
  | begun : History account start [] start
  | granted {turns : List Turn} {held : Option AccessToken} {turn : Turn} {token : AccessToken} :
      History account start turns held →
      account.asks turn.request = true → turn.reply.granted? = some token →
      History account start (turns ++ [turn]) (some token)
  | refused {turns : List Turn} {held : Option AccessToken} {turn : Turn} :
      History account start turns held →
      account.asks turn.request = true → turn.reply.granted? = none →
      History account start (turns ++ [turn]) held
  | accepted {turns : List Turn} {turn : Turn} {token : AccessToken} :
      History account start turns (some token) →
      (∀ other, turn.request.carries other = true ↔ other = token.secret.expose) →
      turn.reply.rejectsToken = false →
      History account start (turns ++ [turn]) (some token)
  | rejected {turns : List Turn} {turn : Turn} {token : AccessToken} :
      History account start turns (some token) →
      (∀ other, turn.request.carries other = true ↔ other = token.secret.expose) →
      turn.reply.rejectsToken = true →
      History account start (turns ++ [turn]) none

namespace History

variable {account : Account} {start middle held : Option AccessToken} {turns later : List Turn}

/-- A history goes on where another has ended. -/
theorem trans (first : account.History start turns middle)
    (second : account.History middle later held) :
    account.History start (turns ++ later) held := by
  induction second with
  | begun => simpa using first
  | granted _ asked grants ih =>
      rw [← List.append_assoc]
      exact ih.granted asked grants
  | refused _ asked nothing ih =>
      rw [← List.append_assoc]
      exact ih.refused asked nothing
  | accepted _ carried kept ih =>
      rw [← List.append_assoc]
      exact ih.accepted carried kept
  | rejected _ carried spurned ih =>
      rw [← List.append_assoc]
      exact ih.rejected carried spurned

/-- A history that begins with nothing ends with what its turns say. -/
theorem eq_remembered (history : account.History none turns held) :
    held = account.remembered turns := by
  induction history with
  | begun => rfl
  | granted _ asked grants _ => simp [remembered, lastGrant?_of_granted asked grants]
  | @refused turns held turn _ asked nothing ih =>
      have idle : account.remembered (turns ++ [turn]) = account.remembered turns :=
        remembered_of_idle (fun _ => nothing) fun token _ => by
          simp [Turn.rejects, carries_of_asks asked]
      rw [idle, ih]
  | @accepted turns turn token _ carried kept ih =>
      have unasked : account.asks turn.request = false :=
        asks_of_carries ((carried token.secret.expose).mpr rfl)
      have idle : account.remembered (turns ++ [turn]) = account.remembered turns :=
        remembered_of_idle (by simp [unasked]) fun token _ => by simp [Turn.rejects, kept]
      rw [idle, ih]
  | @rejected turns turn token _ carried spurned ih =>
      have unasked : account.asks turn.request = false :=
        asks_of_carries ((carried token.secret.expose).mpr rfl)
      have rejects : turn.rejects token = true := by
        simp [Turn.rejects, (carried token.secret.expose).mpr rfl, spurned]
      unfold remembered at ih ⊢
      rw [lastGrant?_of_not_granted (by simp [unasked])]
      cases latest : account.lastGrant? turns with
      | none => rfl
      | some grant =>
          rcases grant with ⟨granted, since⟩
          simp only [latest, Option.bind_some] at ih
          split at ih
          · exact absurd ih (Option.some_ne_none _)
          · obtain rfl := Option.some.inj ih
            simp [rejects]

/-- A turn in a longer list is the last one, or occurs before it. -/
theorem occurs_in_concat {before after : List Turn} {turn last : Turn}
    (same : turns ++ [last] = before ++ turn :: after) :
    (turns = before ∧ last = turn) ∨ ∃ between, turns = before ++ turn :: between := by
  rcases List.append_eq_append_iff.mp same with ⟨added, rfl, rest⟩ | ⟨added, rfl, rest⟩
  · cases added with
    | nil => exact .inl ⟨by simp, (List.cons.inj rest).1⟩
    | cons => simp at rest
  · cases added with
    | nil => exact .inl ⟨by simp, (List.cons.inj rest).1.symm⟩
    | cons first between =>
        obtain rfl := (List.cons.inj rest).1
        exact .inr ⟨between, rfl⟩

/-- In a history that begins with nothing, a turn asks for a token, or carries the
one that was granted last. -/
theorem asks_or_carries (history : account.History none turns held)
    {before after : List Turn} {turn : Turn} (occurs : turns = before ++ turn :: after) :
    account.asks turn.request = true ∨
      ∃ granted since, account.lastGrant? before = some (granted, since) ∧
        ∀ token, turn.request.carries token = true ↔ token = granted.secret.expose := by
  induction history generalizing after with
  | begun => simp at occurs
  | granted _ asked _ ih | refused _ asked _ ih =>
      rcases occurs_in_concat occurs with ⟨_, rfl⟩ | ⟨between, earlier⟩
      · exact .inl asked
      · exact ih earlier
  | accepted history carries _ ih | rejected history carries _ ih =>
      rcases occurs_in_concat occurs with ⟨rfl, rfl⟩ | ⟨between, earlier⟩
      · obtain ⟨since, found⟩ := lastGrant?_of_remembered history.eq_remembered.symm
        exact .inr ⟨_, since, found, carries⟩
      · exact ih earlier

end History

end Account

end HostedCheckout
