import HostedCheckout.Proofs.Merchant.Performance

/-!
# Failures to authenticate

Asking for a token ends in one of three ways: with the token that the gateway offers, with a
failure to authenticate when it offers none, whatever it replies, or with a complaint about
the expiry of what it offers.  So every failure is one to authenticate for exactly those
replies whose offer, if they make one, has an expiry that is a timestamp.
-/

namespace HostedCheckout

/-- Whether a failure is one to authenticate with the gateway. -/
def GatewayError.isAuthentication : GatewayError → Bool
  | .tokenRefused _ | .tokenUnavailable _ _ => true
  | _ => false

/-- Whether a reply offers a token with an expiry: it reports success, and its document has
both, neither of them empty. -/
structure Reply.Offers (reply : Reply) (token rawExpiry : String) : Prop where
  document : ∃ status body, reply.whole? = some (status, body) ∧
    (200 ≤ status ∧ status < 300) ∧
    grantKind.readText body = .ok (some token, some rawExpiry)
  token_ne : token ≠ ""
  rawExpiry_ne : rawExpiry ≠ ""

/-- A reply offers one token at most. -/
theorem Reply.Offers.unique {reply : Reply} {token rawExpiry other otherExpiry : String}
    (first : reply.Offers token rawExpiry) (second : reply.Offers other otherExpiry) :
    token = other ∧ rawExpiry = otherExpiry := by
  obtain ⟨⟨status, body, whole, -, document⟩, -, -⟩ := first
  obtain ⟨⟨_, _, again, -, same⟩, -, -⟩ := second
  obtain ⟨rfl, rfl⟩ := Prod.mk.inj (Option.some.inj (whole.symm.trans again))
  rw [document] at same
  cases same
  exact ⟨rfl, rfl⟩

namespace AccessToken

theorem ofGrant_of_read {token rawExpiry : String} {expiresAt : Instant}
    (read : parseExpiry rawExpiry = .ok expiresAt) :
    ofGrant token rawExpiry = .ok ⟨⟨token⟩, rawExpiry, expiresAt⟩ := by
  simp only [ofGrant, read, Except.map]

theorem ofGrant_of_unread {token rawExpiry : String} {error : GatewayError}
    (unread : parseExpiry rawExpiry = .error error) :
    ofGrant token rawExpiry = .error error := by
  simp only [ofGrant, unread, Except.map]

/-- An expiry that is no timestamp is repeated in the failure. -/
theorem eq_expiry_of_parseExpiry {rawExpiry : String} {error : GatewayError}
    (unread : parseExpiry rawExpiry = .error error) :
    ∃ fault, error = .expiry rawExpiry fault := by
  unfold parseExpiry at unread
  split at unread
  · cases unread
  · cases unread
    exact ⟨_, rfl⟩

end AccessToken

/-- How an answer to a request for a token is taken. -/
inductive Reply.Takes (reply : Reply) : Except GatewayError AccessToken → Prop
  | granted {token : AccessToken} : reply.Offers token.secret.expose token.rawExpiry →
      AccessToken.parseExpiry token.rawExpiry = .ok token.expiresAt → Takes reply (.ok token)
  | refused {error : GatewayError} : error.isAuthentication = true →
      (∀ token rawExpiry, ¬ reply.Offers token rawExpiry) → Takes reply (.error error)
  | undated {token rawExpiry : String} {error : GatewayError} : reply.Offers token rawExpiry →
      AccessToken.parseExpiry rawExpiry = .error error → Takes reply (.error error)

namespace Account

theorem takes_readGrant {reply : Reply} {status : Nat} {body : Bytes}
    (whole : reply.whole? = some (status, body)) : reply.Takes (readGrant status body) := by
  -- Whatever is offered is in this very body.
  have offered {token rawExpiry : String} (offers : reply.Offers token rawExpiry) :
      (200 ≤ status ∧ status < 300) ∧
        grantKind.readText body = .ok (some token, some rawExpiry) := by
    obtain ⟨⟨_, _, again, rest⟩, -, -⟩ := offers
    obtain ⟨rfl, rfl⟩ := Prod.mk.inj (Option.some.inj (whole.symm.trans again))
    exact rest
  unfold readGrant
  split
  · rename_i failed
    refine .refused rfl fun token rawExpiry offers => ?_
    have success := (offered offers).1
    omega
  · rename_i accepted
    have success : 200 ≤ status ∧ status < 300 := by omega
    split
    · rename_i unread
      refine .refused rfl fun token rawExpiry offers => ?_
      have read := (offered offers).2
      rw [unread] at read
      cases read
    · rename_i token rawExpiry read
      split
      · rename_i missing
        refine .refused rfl fun other otherExpiry offers => ?_
        have same := (offered offers).2
        rw [read] at same
        cases same
        exact missing.elim offers.token_ne offers.rawExpiry_ne
      · rename_i given
        have offers : reply.Offers token rawExpiry :=
          ⟨⟨status, body, whole, success, read⟩, fun empty => given (.inl empty),
            fun empty => given (.inr empty)⟩
        cases parsed : AccessToken.parseExpiry rawExpiry with
        | ok expiresAt =>
            rw [AccessToken.ofGrant_of_read parsed]
            exact .granted offers parsed
        | error error =>
            rw [AccessToken.ofGrant_of_unread parsed]
            exact .undated offers parsed
    · rename_i row incomplete read
      refine .refused rfl fun token rawExpiry offers => ?_
      have same := (offered offers).2
      rw [read] at same
      exact incomplete token rawExpiry (Except.ok.inj same)

variable {account : Account} {exchange : Exchange} {token rawExpiry : String}

/-- Whether the gateway offers an account a token: its request for one can be sent, and the
reply offers it. -/
def IsOffered (account : Account) (exchange : Exchange) (token rawExpiry : String) : Prop :=
  (∃ draft, account.grantDraft = .ok draft) ∧ exchange.next.1.Offers token rawExpiry

/-- Whether asking for a token ends with the one that is offered, or with a failure to
authenticate. -/
def Authenticates (account : Account) (exchange : Exchange) : Prop :=
  (∃ token, (account.grant exchange).1 = .ok token ∧
      account.IsOffered exchange token.secret.expose token.rawExpiry) ∨
    ∃ error, (account.grant exchange).1 = .error error ∧ error.isAuthentication = true

/-- What is done with the answer to a request that is sent. -/
theorem takes_grant {draft : Draft} (prepared : account.grantDraft = .ok draft)
    (exchange : Exchange) : exchange.next.1.Takes (account.grant exchange).1 := by
  simp only [grant, prepared, Exchange.send, Exchange.outcome]
  cases whole : exchange.next.1.whole? with
  | some answer => exact takes_readGrant whole
  | none =>
      have offersNothing (token rawExpiry : String) :
          ¬ exchange.next.1.Offers token rawExpiry := by
        rintro ⟨⟨_, _, again, -⟩, -, -⟩
        rw [whole] at again
        cases again
      cases exchange.next.1.status? with
      | none => exact .refused rfl offersNothing
      | some status => exact .refused rfl offersNothing

/-- An offer whose expiry is no timestamp ends with a complaint about it. -/
theorem grant_of_undated (offered : account.IsOffered exchange token rawExpiry)
    {error : GatewayError} (unread : AccessToken.parseExpiry rawExpiry = .error error) :
    (account.grant exchange).1 = .error error := by
  obtain ⟨⟨draft, prepared⟩, offers⟩ := offered
  have takes := takes_grant prepared exchange
  generalize (account.grant exchange).1 = outcome at takes
  cases takes with
  | granted others parsed =>
      obtain ⟨-, rfl⟩ := offers.unique others
      rw [unread] at parsed
      cases parsed
  | refused _ offersNothing => exact absurd offers (offersNothing _ _)
  | undated others failed =>
      obtain ⟨-, rfl⟩ := offers.unique others
      rw [unread] at failed
      cases failed
      rfl

theorem not_authenticates_of_undated (offered : account.IsOffered exchange token rawExpiry)
    {error : GatewayError} (unread : AccessToken.parseExpiry rawExpiry = .error error) :
    ¬ account.Authenticates exchange := by
  have complains := grant_of_undated offered unread
  obtain ⟨fault, rfl⟩ := AccessToken.eq_expiry_of_parseExpiry unread
  rintro (⟨_, granted, -⟩ | ⟨_, failed, authentication⟩)
  · rw [complains] at granted
    cases granted
  · rw [complains] at failed
    cases failed
    cases authentication

/-- A request for a token that does not end in either way is answered with an offer whose
expiry is no timestamp. -/
theorem authenticates_or_undated (account : Account) (exchange : Exchange) :
    account.Authenticates exchange ∨
      ∃ token rawExpiry error, account.IsOffered exchange token rawExpiry ∧
        AccessToken.parseExpiry rawExpiry = .error error := by
  cases prepared : account.grantDraft with
  | error fault =>
      have unsent := grant_of_unprepared prepared exchange
      exact .inl (.inr ⟨_, congrArg Prod.fst unsent, rfl⟩)
  | ok draft =>
      have takes := takes_grant prepared exchange
      generalize granted : (account.grant exchange).1 = outcome at takes
      cases takes with
      | granted offers => exact .inl (.inl ⟨_, granted, ⟨draft, prepared⟩, offers⟩)
      | refused authentication => exact .inl (.inr ⟨_, granted, authentication⟩)
      | undated offers unread => exact .inr ⟨_, _, _, ⟨⟨draft, prepared⟩, offers⟩, unread⟩

/-- Asking for a token ends with the one that is offered or with a failure to authenticate,
whether or not the gateway can be reached and whatever it replies, unless it offers a token
with an expiry that is no timestamp.  Then, and only then, it ends with a complaint that
repeats the expiry. -/
theorem authenticates_iff (account : Account) (exchange : Exchange) :
    (account.Authenticates exchange ↔
      ∀ token rawExpiry, account.IsOffered exchange token rawExpiry →
        ∃ expiresAt, AccessToken.parseExpiry rawExpiry = .ok expiresAt) ∧
    (¬ account.Authenticates exchange ↔
      ∃ rawExpiry fault, (account.grant exchange).1 = .error (.expiry rawExpiry fault)) := by
  refine ⟨⟨fun authenticates token rawExpiry offered => ?_, fun dated => ?_⟩,
    fun otherwise => ?_, ?_⟩
  · cases read : AccessToken.parseExpiry rawExpiry with
    | ok expiresAt => exact ⟨expiresAt, rfl⟩
    | error error => exact absurd authenticates (not_authenticates_of_undated offered read)
  · rcases account.authenticates_or_undated exchange with
      authenticates | ⟨token, rawExpiry, error, offered, unread⟩
    · exact authenticates
    · obtain ⟨expiresAt, read⟩ := dated token rawExpiry offered
      rw [read] at unread
      cases unread
  · obtain ⟨token, rawExpiry, error, offered, unread⟩ :=
      (account.authenticates_or_undated exchange).resolve_left otherwise
    obtain ⟨fault, rfl⟩ := AccessToken.eq_expiry_of_parseExpiry unread
    exact ⟨rawExpiry, fault, grant_of_undated offered unread⟩
  · rintro ⟨rawExpiry, fault, complains⟩ (⟨_, granted, -⟩ | ⟨_, failed, authentication⟩)
    · rw [complains] at granted
      cases granted
    · rw [complains] at failed
      cases failed
      cases authentication

end Account

/-- A line on which a token is offered until tomorrow. -/
def Sample.offeringUntilTomorrow : Exchange :=
  ⟨[.answered 200 (Bytes.ofString "\x7b\"token\":\"t\",\"expires_at\":\"tomorrow\"\x7d")],
    .closed, []⟩

/-- This is neither the token nor a failure to authenticate. -/
theorem Account.complains_of_tomorrow :
    Sample.account.IsOffered Sample.offeringUntilTomorrow "t" "tomorrow" ∧
      ¬ Sample.account.Authenticates Sample.offeringUntilTomorrow ∧
      ∃ fault, (Sample.account.grant Sample.offeringUntilTomorrow).1 =
        .error (.expiry "tomorrow" fault) := by
  have document : (grantKind.readText (Bytes.ofString
      "\x7b\"token\":\"t\",\"expires_at\":\"tomorrow\"\x7d")).toOption =
        some (some "t", some "tomorrow") := by
    decide +kernel
  have offers : Sample.offeringUntilTomorrow.next.1.Offers "t" "tomorrow" :=
    ⟨⟨200, _, rfl, by decide, toOption_eq_some_iff.mp document⟩, by decide, by decide⟩
  have sendable : Sample.account.grantDraft.toOption.isSome = true := by decide +kernel
  obtain ⟨draft, prepared⟩ := Option.isSome_iff_exists.mp sendable
  have offered : Sample.account.IsOffered Sample.offeringUntilTomorrow "t" "tomorrow" :=
    ⟨⟨draft, toOption_eq_some_iff.mp prepared⟩, offers⟩
  have unread : AccessToken.parseExpiry "tomorrow" = .error (.expiry "tomorrow" .tooShort) := rfl
  exact ⟨offered, not_authenticates_of_undated offered unread, _, grant_of_undated offered unread⟩

end HostedCheckout
