import HostedCheckout.Proofs.Merchant.Margins

/-!
# How long a token is kept

The longer the margin, the sooner a remembered token is given up, as long as the margin is
counted: one that is too long for a session counts as none, and the token is then kept until
it expires.  The main statement says for exactly which two margins the longer one keeps no token
that the shorter one gives up.
-/

namespace HostedCheckout

namespace Instant

/-- Instants are ordered like the nanoseconds that they stand for. -/
theorem before_iff_lt {earlier later : Int} {first second : Instant}
    (firstEq : ofNanoseconds? earlier = some first)
    (secondEq : ofNanoseconds? later = some second) :
    first.before second = true ↔ earlier < later := by
  unfold ofNanoseconds? at firstEq secondEq
  split at firstEq
  · split at secondEq
    · cases firstEq
      cases secondEq
      simp only [before_iff, perSecond]
      omega
    · cases secondEq
  · cases firstEq

end Instant

namespace Session

variable {Source : Type} {early late : Session Source}

instance (session : Session Source) : Decidable session.Overruns :=
  inferInstanceAs (Decidable (_ ∧ (_ ∨ _ ∧ _)))

instance (session : Session Source) : Decidable session.lacksUsable :=
  inferInstanceAs (Decidable (_ ∧ _))

section Margins

variable (clock_eq : early.clock = late.clock) (token_eq : early.token = late.token)
  (margin_le : early.margin ≤ late.margin)
include clock_eq token_eq margin_le

/-- What a look finds with a margin it finds with a shorter one, if it can judge the clock. -/
theorem holdsUsable_of_margin_le {reading : Nat} (judged : early.judgedAt reading ≠ none)
    (found : late.holdsUsable reading = true) : early.holdsUsable reading = true := by
  obtain ⟨sooner, soonerEq⟩ := Option.ne_none_iff_exists'.mp judged
  have order : early.clock reading + early.margin ≤ late.clock reading + late.margin := by
    rw [clock_eq]
    omega
  unfold holdsUsable accepts at found ⊢
  rw [token_eq, soonerEq]
  cases held : late.token with
  | none => simp [held] at found
  | some token =>
      cases laterEq : late.judgedAt reading with
      | none => simp [held, laterEq] at found
      | some later =>
          simp only [held, laterEq, Option.any_some] at found ⊢
          exact Instant.before_of_le order soonerEq laterEq found

/-- What a look does not find with a margin it does not find with a longer one. -/
theorem holdsUsable_eq_false_of_margin_le {reading : Nat}
    (judged : early.token.isSome = true → early.judgedAt reading ≠ none)
    (nothing : early.holdsUsable reading = false) : late.holdsUsable reading = false := by
  rw [Bool.eq_false_iff] at nothing ⊢
  intro found
  have present : early.token.isSome = true := by
    rw [token_eq]
    exact Option.isSome_of_any found
  exact nothing (holdsUsable_of_margin_le clock_eq token_eq margin_le (judged present) found)

/-- If one of two looks finds a token, so does one of two with a shorter margin, unless they
break off. -/
theorem not_lacksUsable_of_margin_le (readings_eq : early.readings = late.readings)
    (calm : ¬ early.Overruns) (found : ¬ late.lacksUsable) : ¬ early.lacksUsable := by
  rintro ⟨first, second⟩
  refine found ?_
  unfold lacksUsable
  rw [← readings_eq]
  constructor
  · refine holdsUsable_eq_false_of_margin_le clock_eq token_eq margin_le ?_ first
    exact fun present unjudged => calm ⟨present, .inl unjudged⟩
  · refine holdsUsable_eq_false_of_margin_le clock_eq token_eq margin_le ?_ second
    exact fun present unjudged => calm ⟨present, .inr ⟨first, unjudged⟩⟩

end Margins

section Still

variable {session : Session Source} {instant : Instant}
  (judged : ∀ reading, session.judgedAt reading = some instant)
include judged

/-- No look breaks off while the clock stands still within the calendar. -/
theorem not_overruns_of_still : ¬ session.Overruns := by
  rintro ⟨-, unjudged | ⟨-, unjudged⟩⟩ <;> simp [judged] at unjudged

/-- While the clock stands still, both looks find the same. -/
theorem lacksUsable_of_still_iff {token : AccessToken} (held : session.token = some token) :
    session.lacksUsable ↔ token.isUsableAt instant = false := by
  simp [lacksUsable, holdsUsable, accepts, held, judged]

end Still

end Session

namespace Account

/-- Whether the remembered token is obtained, and nothing is sent for it. -/
def Reuses (account : Account) (session : Session Exchange) : Prop :=
  (∃ token, session.token = some token ∧
      (session.obtainToken account.grant).1 = .ok token.secret.expose) ∧
    (session.obtainToken account.grant).2.source = session.source

/-- A token is reused exactly when one of two looks finds it usable. -/
theorem reuses_iff (account : Account) {session : Session Exchange} (calm : ¬ session.Overruns) :
    account.Reuses session ↔ ¬ session.lacksUsable := by
  have looked := Session.obtainToken_overruns_iff account.grant session
  obtain ⟨turns, fetches⟩ := account.fetches_obtainToken session
  unfold Reuses
  generalize session.obtainToken account.grant = result at fetches looked
  cases fetches with
  | unreadable => exact absurd (looked.mp rfl) calm
  | remembered held reading accepted =>
      have found : ¬ session.lacksUsable := by
        rintro ⟨first, second⟩
        rcases reading with rfl | rfl
        · simp [Session.holdsUsable, held, accepted] at first
        · simp [Session.holdsUsable, held, accepted] at second
      exact ⟨fun _ => found, fun _ => ⟨⟨_, held, rfl⟩, rfl⟩⟩
  | unsent lacks | refused lacks =>
      simp [lacks]
  | granted lacks =>
      refine ⟨fun reused => ?_, fun found => absurd lacks found⟩
      have same := congrArg Exchange.turns reused.2
      simp [Exchange.send] at same

end Account

namespace Span

/-- Whether a session counts a margin: one that is too long for it counts as none. -/
def IsCounted (margin : Span) : Prop :=
  margin.nanoseconds ≤ MerchantOptions.longestMargin * 1000000

instance (margin : Span) : Decidable margin.IsCounted := inferInstanceAs (Decidable (_ ≤ _))

/-- Whether a margin leads out of the calendar from everywhere in it. -/
def LeavesCalendar (margin : Span) : Prop :=
  Instant.latest ≤ Instant.earliest + margin.nanoseconds

end Span

namespace MerchantOptions

variable {options : MerchantOptions} {margin shorter longer : Span}

/-- The same options with another margin. -/
def withMargin (options : MerchantOptions) (margin : Span) : MerchantOptions :=
  { options with margin }

/-- The session that belongs to the options, after some readings of the clock, when a token is
remembered. -/
def holding (options : MerchantOptions) (token : AccessToken) (clock : Nat → Int)
    (readings : Nat) (exchange : Exchange) : Session Exchange :=
  { options.session clock exchange with token := some token, readings }

/-- A token is kept no longer with the longer margin than with the shorter one: whenever it is
reused with the longer one, and no look breaks off, it is with the shorter one. -/
def KeepsNoLonger (options : MerchantOptions) (longer shorter : Span) : Prop :=
  ∀ (token : AccessToken) (clock : Nat → Int) (readings : Nat) (exchange : Exchange),
    ¬ ((options.withMargin longer).holding token clock readings exchange).Overruns →
    ¬ ((options.withMargin shorter).holding token clock readings exchange).Overruns →
    (options.withMargin longer).merchant.account.Reuses
      ((options.withMargin longer).holding token clock readings exchange) →
    (options.withMargin shorter).merchant.account.Reuses
      ((options.withMargin shorter).holding token clock readings exchange)

theorem sessionMargin_of_counted (counted : margin.IsCounted) :
    (options.withMargin margin).sessionMargin = margin.nanoseconds :=
  if_pos counted

theorem sessionMargin_of_not_counted (uncounted : ¬ margin.IsCounted) :
    (options.withMargin margin).sessionMargin = 0 :=
  if_neg uncounted

/-- The longer of two margins makes the shorter one of a session if it alone is not counted. -/
theorem sessionMargin_lt_iff (order : shorter.nanoseconds ≤ longer.nanoseconds) :
    (options.withMargin longer).sessionMargin < (options.withMargin shorter).sessionMargin ↔
      ¬ longer.IsCounted ∧ shorter.IsCounted ∧ 0 < shorter.nanoseconds := by
  unfold sessionMargin withMargin Span.IsCounted
  dsimp only
  split <;> split <;> omega

/-- What matters is the order of the margins that the sessions have. -/
theorem keepsNoLonger_of_sessionMargin_le
    (order : (options.withMargin shorter).sessionMargin ≤
      (options.withMargin longer).sessionMargin) :
    options.KeepsNoLonger longer shorter := by
  intro token clock readings exchange late_calm early_calm reused
  rw [Account.reuses_iff _ late_calm] at reused
  rw [Account.reuses_iff _ early_calm]
  refine Session.not_lacksUsable_of_margin_le ?_ ?_ ?_ ?_ early_calm reused
  exacts [rfl, rfl, order, rfl]

/-- With a margin that leads out of the calendar, the first look breaks off if it does not
without a margin. -/
theorem overruns_of_leavesCalendar {token : AccessToken} {clock : Nat → Int} {readings : Nat}
    {exchange : Exchange} (counted : shorter.IsCounted) (uncounted : ¬ longer.IsCounted)
    (leaves : shorter.LeavesCalendar)
    (calm : ¬ ((options.withMargin longer).holding token clock readings exchange).Overruns) :
    ((options.withMargin shorter).holding token clock readings exchange).Overruns := by
  have shown : (Instant.ofNanoseconds?
      (clock readings + (options.withMargin longer).sessionMargin)).isSome = true := by
    rw [Option.isSome_iff_ne_none]
    exact fun unjudged => calm ⟨rfl, .inl unjudged⟩
  rw [sessionMargin_of_not_counted uncounted, Instant.isSome_ofNanoseconds?_iff] at shown
  refine ⟨rfl, .inl ?_⟩
  change Instant.ofNanoseconds? (clock readings + (options.withMargin shorter).sessionMargin) = none
  rw [sessionMargin_of_counted counted, ← Option.not_isSome_iff_eq_none,
    Instant.isSome_ofNanoseconds?_iff]
  unfold Span.LeavesCalendar at leaves
  omega

/-- The session that belongs to the options, at the dawn of the calendar, when a token is
remembered that expires at some limit. -/
def atDawn (options : MerchantOptions) (limit : Instant) : Session Exchange :=
  options.holding ⟨⟨""⟩, "", limit⟩ (fun _ => Instant.earliest) 0 ⟨[], .closed, []⟩

theorem judgedAt_atDawn (limit : Instant) (reading : Nat) :
    (options.atDawn limit).judgedAt reading =
      Instant.ofNanoseconds? (Instant.earliest + options.sessionMargin) :=
  rfl

/-- At the dawn of the calendar, a token that expires at the end of the shorter margin is kept
with a longer margin that counts as none, and given up with the shorter one. -/
theorem not_keepsNoLonger (positive : 0 < shorter.nanoseconds) (counted : shorter.IsCounted)
    (stays : ¬ shorter.LeavesCalendar) (uncounted : ¬ longer.IsCounted) :
    ¬ options.KeepsNoLonger longer shorter := by
  unfold Span.LeavesCalendar at stays
  obtain ⟨dawn, dawnEq⟩ := Option.isSome_iff_exists.mp <|
    Instant.isSome_ofNanoseconds?_iff.mpr (show _ ∧ Instant.earliest < _ by omega)
  obtain ⟨limit, limitEq⟩ := Option.isSome_iff_exists.mp <|
    Instant.isSome_ofNanoseconds?_iff.mpr
      (show _ ∧ Instant.earliest + shorter.nanoseconds < _ by omega)
  have late (reading : Nat) :
      ((options.withMargin longer).atDawn limit).judgedAt reading = some dawn := by
    rw [judgedAt_atDawn, sessionMargin_of_not_counted uncounted, Int.add_zero, dawnEq]
  have early (reading : Nat) :
      ((options.withMargin shorter).atDawn limit).judgedAt reading = some limit := by
    rw [judgedAt_atDawn, sessionMargin_of_counted counted, limitEq]
  have usable : dawn.before limit = true :=
    (Instant.before_iff_lt dawnEq limitEq).mpr (by omega)
  have lapsed : limit.before limit = false := by
    rw [Bool.eq_false_iff, ne_eq, Instant.before_iff_lt limitEq limitEq]
    exact Int.lt_irrefl _
  have kept : ¬ ((options.withMargin longer).atDawn limit).lacksUsable := by
    rw [Session.lacksUsable_of_still_iff late rfl]
    exact fun unusable => by simp [AccessToken.isUsableAt, usable] at unusable
  have given_up : ((options.withMargin shorter).atDawn limit).lacksUsable :=
    (Session.lacksUsable_of_still_iff early rfl).mpr lapsed
  have late_calm := Session.not_overruns_of_still late
  have early_calm := Session.not_overruns_of_still early
  intro keeps
  have reused := keeps _ _ _ _ late_calm early_calm ((Account.reuses_iff _ late_calm).mpr kept)
  exact (Account.reuses_iff _ early_calm).mp reused given_up

end MerchantOptions

namespace Sample

/-- A token that is granted until the year 2030. -/
def lasting : AccessToken := ⟨⟨"t"⟩, "2030-01-01T00:00:00Z", ⟨1893456000, 0⟩⟩

/-- Options with nothing but credentials given. -/
def plain : MerchantOptions := .ofCredentials "client" "key"

/-- A session that remembers the token at the start of the year 2024. -/
def remembering (margin : Span) : Session Exchange :=
  (plain.withMargin margin).holding lasting (fun _ => 1704067200000000000) 0 ⟨[], .closed, []⟩

end Sample

end HostedCheckout
