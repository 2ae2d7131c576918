import HostedCheckout.Proofs.Session.Alone
import HostedCheckout.Proofs.Session.Deeds
import Mathlib.Data.Finset.Card

/-!
# Restraint

However many workers make rounds, and in whatever order they do so, a rejection costs
no more than the token that was rejected.  What is remembered is given up only after a
call that was made with it was rejected, or for another token when it could not be used.
While the tokens that are remembered stay usable, of those that were granted all but one
have been rejected.
-/

namespace HostedCheckout

variable {Worker Source : Type} {grant : Grant Source}

namespace Crew

variable {crew after final : Crew Worker Source} {worker : Worker} {deed : Deed Source}
  {notes added : List Note}

/-! ## What the notes account for -/

/-- Every complaint has its note. -/
def Justified (notes : List Note) (crew : Crew Worker Source) : Prop :=
  ∀ worker token, crew.stage worker = .spurned token → .rejected token ∈ notes

/-- Every token that was granted is kept, or about to be.  Every token that was kept is
remembered, or has been rejected; and once it is not, somebody may be about to refresh. -/
structure Accounted (notes : List Note) (crew : Crew Worker Source) : Prop where
  granted : ∀ fresh, .granted fresh ∈ notes →
    .kept fresh ∈ notes ∨ ∃ worker, crew.stage worker = .keeping fresh
  kept : ∀ fresh, .kept fresh ∈ notes →
    .rejected fresh.secret.expose ∈ notes ∨ crew.session.token = some fresh
  replaced : ∀ worker, (crew.stage worker).isRefreshing = true →
    ∀ fresh, .kept fresh ∈ notes → crew.session.token ≠ some fresh

theorem justified_gathered (session : Session Source) :
    Justified [] (gathered session : Crew Worker Source) := by
  intro worker token spurned
  cases spurned

theorem accounted_gathered (session : Session Source) :
    Accounted [] (gathered session : Crew Worker Source) where
  granted _ noted := absurd noted List.not_mem_nil
  kept _ noted := absurd noted List.not_mem_nil
  replaced _ _ _ noted := absurd noted List.not_mem_nil

/-- Two tokens that were granted and not rejected are the same: the one that is
remembered, or the one that is about to be. -/
theorem Accounted.eq_of_not_rejected (accounted : Accounted notes crew) (sound : crew.Sound)
    {first second : AccessToken}
    (firstGranted : .granted first ∈ notes) (secondGranted : .granted second ∈ notes)
    (firstValid : .rejected first.secret.expose ∉ notes)
    (secondValid : .rejected second.secret.expose ∉ notes) : first = second := by
  -- While a token is about to be kept, none of those kept before is remembered.
  have apart {kept fresh : AccessToken} {keeper : Worker}
      (noted : .kept kept ∈ notes) (valid : .rejected kept.secret.expose ∉ notes)
      (keeps : crew.stage keeper = .keeping fresh) : False :=
    accounted.replaced keeper (by rw [keeps]; rfl) kept noted
      ((accounted.kept kept noted).resolve_left valid)
  rcases accounted.granted first firstGranted with firstKept | ⟨keeper, firstKeeping⟩
  · rcases accounted.granted second secondGranted with secondKept | ⟨keeper, secondKeeping⟩
    · have remembersFirst := (accounted.kept first firstKept).resolve_left firstValid
      have remembersSecond := (accounted.kept second secondKept).resolve_left secondValid
      exact Option.some.inj (remembersFirst.symm.trans remembersSecond)
    · exact (apart firstKept firstValid secondKeeping).elim
  · rcases accounted.granted second secondGranted with secondKept | ⟨other, secondKeeping⟩
    · exact (apart secondKept secondValid firstKeeping).elim
    · have firstInside := (sound.inside_iff keeper).mp (by rw [firstKeeping]; rfl)
      have secondInside := (sound.inside_iff other).mp (by rw [secondKeeping]; rfl)
      obtain rfl := Option.some.inj (firstInside.symm.trans secondInside)
      rw [firstKeeping] at secondKeeping
      cases secondKeeping
      rfl

/-- When the tokens that were granted differ from each other, at most one of them has
not been rejected. -/
theorem Accounted.length_granted_le (accounted : Accounted notes crew) (sound : crew.Sound)
    (distinct : ((notes.filterMap Note.granted?).map (·.secret.expose)).Nodup) :
    (notes.filterMap Note.granted?).length ≤
      1 + (notes.filterMap Note.rejected?).toFinset.card := by
  have noted {fresh : AccessToken} (among : fresh ∈ notes.filterMap Note.granted?) :
      .granted fresh ∈ notes := by
    obtain ⟨note, inside, same⟩ := List.mem_filterMap.mp among
    cases note with
    | granted => exact Option.some.inj same ▸ inside
    | kept | rejected => exact absurd same (Option.some_ne_none _).symm
  have listed {token : String} (rejected : .rejected token ∈ notes) :
      token ∈ (notes.filterMap Note.rejected?).toFinset :=
    List.mem_toFinset.mpr (List.mem_filterMap.mpr ⟨_, rejected, rfl⟩)
  rw [← List.length_map (·.secret.expose), ← List.toFinset_card_of_nodup distinct]
  by_cases settled : ∀ fresh, .granted fresh ∈ notes → .rejected fresh.secret.expose ∈ notes
  · refine Nat.le_trans (Finset.card_le_card ?_) (Nat.le_add_left _ 1)
    intro name among
    obtain ⟨fresh, inside, rfl⟩ := List.mem_map.mp (List.mem_toFinset.mp among)
    exact listed (settled fresh (noted inside))
  · simp only [not_forall] at settled
    obtain ⟨last, lastGranted, lastValid⟩ := settled
    rw [Nat.add_comm]
    refine Nat.le_trans (Finset.card_le_card ?_) (Finset.card_insert_le last.secret.expose _)
    intro name among
    obtain ⟨fresh, inside, rfl⟩ := List.mem_map.mp (List.mem_toFinset.mp among)
    by_cases valid : .rejected fresh.secret.expose ∈ notes
    · exact Finset.mem_insert_of_mem (listed valid)
    · obtain rfl := accounted.eq_of_not_rejected sound (noted inside) lastGranted valid lastValid
      exact Finset.mem_insert_self _ _

/-- A worker that neither keeps a token nor has one forgotten leaves what was noted
accounted for. -/
theorem Accounted.move (accounted : Accounted notes crew)
    (others : ∀ other, other ≠ worker → after.stage other = crew.stage other)
    (same : after.session.token = crew.session.token)
    (leaves : ∀ fresh, crew.stage worker ≠ .keeping fresh)
    (granted : ∀ fresh, .granted fresh ∈ added → after.stage worker = .keeping fresh)
    (kept : ∀ fresh, .kept fresh ∉ added)
    (replaced : (after.stage worker).isRefreshing = true →
      ∀ fresh, .kept fresh ∈ notes → crew.session.token ≠ some fresh) :
    Accounted (notes ++ added) after where
  granted fresh noted := by
    rcases List.mem_append.mp noted with before | now
    · rcases accounted.granted fresh before with wasKept | ⟨keeper, keeps⟩
      · exact .inl (List.mem_append_left added wasKept)
      · have different : keeper ≠ worker := by
          rintro rfl
          exact leaves fresh keeps
        exact .inr ⟨keeper, (others keeper different).trans keeps⟩
    · exact .inr ⟨worker, granted fresh now⟩
  kept fresh noted := by
    rcases List.mem_append.mp noted with before | now
    · rw [same]
      exact (accounted.kept fresh before).imp_left (List.mem_append_left added)
    · exact absurd now (kept fresh)
  replaced other refreshing fresh noted := by
    have before := (List.mem_append.mp noted).resolve_right (kept fresh)
    rw [same]
    by_cases mover : other = worker
    · rw [mover] at refreshing
      exact replaced refreshing fresh before
    · rw [others other mover] at refreshing
      exact accounted.replaced other refreshing fresh before

/-- When nothing is noted, all depends on whether the worker goes on to refresh. -/
theorem Accounted.quiet (accounted : Accounted notes crew) {before stage : Stage}
    (standing : crew.stage worker = before) (arrives : after.stage worker = stage)
    (others : ∀ other, other ≠ worker → after.stage other = crew.stage other)
    (same : after.session.token = crew.session.token)
    (nothing : Note.between before stage = []) (leaves : ∀ fresh, before ≠ .keeping fresh)
    (replaced : stage.isRefreshing = true →
      ∀ fresh, .kept fresh ∈ notes → crew.session.token ≠ some fresh) :
    Accounted (notes ++ Note.between (crew.stage worker) (after.stage worker)) after := by
  rw [standing, arrives, nothing]
  refine accounted.move others same ?_ ?_ ?_ ?_
  · rw [standing]
    exact leaves
  · exact fun _ noted => absurd noted List.not_mem_nil
  · exact fun _ => List.not_mem_nil
  · rw [arrives]
    exact replaced

variable [DecidableEq Worker]

/-- Whoever keeps a token is the only one about to refresh, so that the token may take
the place of what was remembered. -/
theorem Accounted.keep (accounted : Accounted notes crew) (sound : crew.Sound)
    {fresh : AccessToken} (keeping : crew.stage worker = .keeping fresh) :
    Accounted (notes ++ [.kept fresh])
      (crew.settle worker (.holding fresh.secret.expose)
        { crew.session with token := some fresh }) where
  granted other noted := by
    rcases List.mem_append.mp noted with before | now
    · rcases accounted.granted other before with wasKept | ⟨keeper, keeps⟩
      · exact .inl (List.mem_append_left _ wasKept)
      · by_cases same : keeper = worker
        · rw [same, keeping] at keeps
          cases keeps
          exact .inl (List.mem_append_right _ (List.mem_singleton_self _))
        · refine .inr ⟨keeper, ?_⟩
          simpa only [settle, Function.update_of_ne same] using keeps
    · cases List.mem_singleton.mp now
  kept other noted := by
    rcases List.mem_append.mp noted with before | now
    · have lost := accounted.replaced worker (by rw [keeping]; rfl) other before
      exact .inl (List.mem_append_left _ ((accounted.kept other before).resolve_right lost))
    · cases List.mem_singleton.mp now
      exact .inr rfl
  replaced other refreshing := by
    have free := (sound.inside_iff worker).mp (by rw [keeping]; rfl)
    have settled : (crew.settle worker (.holding fresh.secret.expose)
        { crew.session with token := some fresh }).Sound := sound.settle_idle (.inr free) rfl _
    rw [settled.idle rfl other] at refreshing
    exact absurd refreshing Bool.false_ne_true

/-- Whoever has a token forgotten has had it rejected. -/
theorem Accounted.forget (accounted : Accounted notes crew) (sound : crew.Sound)
    (justified : Justified notes crew) {token : String}
    (spurned : crew.stage worker = .spurned token) (free : crew.refresher = none) :
    Accounted notes
      (crew.settle worker .gone
        { crew.session with token := crew.session.token.filter (·.secret.expose != token) }) where
  granted fresh noted := by
    refine (accounted.granted fresh noted).imp_right ?_
    rintro ⟨keeper, keeps⟩
    have different : keeper ≠ worker := by
      rintro rfl
      rw [spurned] at keeps
      cases keeps
    exact ⟨keeper, by simpa only [settle, Function.update_of_ne different] using keeps⟩
  kept fresh noted := by
    by_cases same : fresh.secret.expose = token
    · rw [same]
      exact .inl (justified worker token spurned)
    · refine (accounted.kept fresh noted).imp_right fun remembers => ?_
      simp [remembers, same]
  replaced other refreshing := by
    have settled : (crew.settle worker .gone { crew.session with
        token := crew.session.token.filter (·.secret.expose != token) }).Sound :=
      sound.settle_idle (.inl free) rfl _
    rw [settled.idle rfl other] at refreshing
    exact absurd refreshing Bool.false_ne_true

/-- A step leaves what was noted accounted for, as long as the tokens that were kept are
usable when somebody looks. -/
theorem Advances.accounted {act : Act} (advances : crew.Advances grant worker act after)
    (honest : act ≠ .complain) (sound : crew.Sound) (justified : Justified notes crew)
    (accounted : Accounted notes crew)
    (usable : ∀ fresh, .kept fresh ∈ notes → crew.session.readings < after.session.readings →
      crew.session.accepts fresh crew.session.readings = true) :
    Accounted (notes ++ Note.between (crew.stage worker) (after.stage worker)) after := by
  have others : ∀ other, other ≠ worker → after.stage other = crew.stage other :=
    fun other different => advances.stage_of_ne different
  have idle {stage : Stage} (resting : stage.isRefreshing = false)
      (refreshing : stage.isRefreshing = true) :
      ∀ fresh, .kept fresh ∈ notes → crew.session.token ≠ some fresh := by
    rw [resting] at refreshing
    exact absurd refreshing Bool.false_ne_true
  have going {stage : Stage} (standing : crew.stage worker = stage)
      (refreshing : stage.isRefreshing = true) :
      ∀ fresh, .kept fresh ∈ notes → crew.session.token ≠ some fresh :=
    accounted.replaced worker (by rw [standing]; exact refreshing)
  cases advances with
  | look arriving _ looks =>
      refine accounted.quiet arriving (stage_settle ..) others looks.token_eq rfl (by simp) ?_
      exact idle (by cases looks <;> rfl)
  | enter queuing =>
      exact accounted.quiet queuing (stage_settle ..) others rfl rfl (by simp) (idle rfl)
  | lookAgain entered looks =>
      refine accounted.quiet entered (stage_settle ..) others looks.token_eq rfl (by simp) ?_
      intro refreshing fresh noted remembers
      cases looks with
      | empty nothing =>
          rw [nothing] at remembers
          exact absurd remembers (Option.some_ne_none fresh).symm
      | unreadable | usable => exact absurd refreshing Bool.false_ne_true
      | lapsed held judged unusable =>
          have accepted := usable fresh noted (Nat.lt_succ_self _)
          obtain rfl := Option.some.inj (held.symm.trans remembers)
          simp [Session.accepts, judged, unusable] at accepted
  | ask cleared =>
      refine accounted.quiet cleared (stage_settle ..) others rfl rfl (by simp) ?_
      exact fun _ => going cleared rfl
  | @granted fresh asking =>
      have alone (note : Note) (noted : note ∈ [.granted fresh]) : note = .granted fresh :=
        List.mem_singleton.mp noted
      rw [asking, stage_settle]
      refine accounted.move others rfl (by simp [asking]) ?_ ?_ ?_
      · intro other noted
        cases alone _ noted
        exact stage_settle ..
      · intro other noted
        cases alone _ noted
      · exact fun _ => going asking rfl
  | refused asking =>
      exact accounted.quiet asking (stage_settle ..) others rfl (by rfl) (by simp) (idle rfl)
  | keep keeping =>
      rw [keeping, stage_settle]
      exact accounted.keep sound keeping
  | leave waiting =>
      have arrives : (crew.shift worker .gone).stage worker = .gone := Function.update_self ..
      rcases waiting with arriving | queuing
      · exact accounted.quiet arriving arrives others rfl rfl (by simp) (idle rfl)
      · exact accounted.quiet queuing arrives others rfl rfl (by simp) (idle rfl)
  | abandon asking =>
      exact accounted.quiet asking (stage_settle ..) others rfl (by rfl) (by simp) (idle rfl)
  | complain => exact absurd rfl honest
  | forget spurned free =>
      rw [spurned, stage_settle]
      simpa [Note.between] using accounted.forget sound justified spurned free

theorem Proceeds.accounted (proceeds : crew.Proceeds grant worker deed after)
    (sound : crew.Sound) (justified : Justified notes crew) (accounted : Accounted notes crew)
    (usable : ∀ fresh, .kept fresh ∈ notes → crew.session.readings < after.session.readings →
      crew.session.accepts fresh crew.session.readings = true) :
    Accounted (notes ++ Note.between (crew.stage worker) (after.stage worker)) after := by
  have others : ∀ other, other ≠ worker → after.stage other = crew.stage other :=
    fun other different => proceeds.stage_of_ne different
  cases proceeds with
  | step honest advances => exact advances.accounted honest sound justified accounted usable
  | @call token errand outcome source holding _ =>
      rcases Stage.afterCall_cases token outcome with leads | leads
      · refine accounted.quiet holding ((Function.update_self ..).trans leads) others rfl rfl
          (by simp) ?_
        exact fun refreshing => absurd refreshing Bool.false_ne_true
      · have alone (note : Note) (noted : note ∈ [.rejected token]) : note = .rejected token :=
          List.mem_singleton.mp noted
        rw [leads] at others ⊢
        simp only [holding, shift, Function.update_self] at others ⊢
        refine accounted.move others rfl (by simp [holding]) ?_ ?_ ?_
        · intro fresh noted
          cases alone _ noted
        · intro fresh noted
          cases alone _ noted
        · intro refreshing
          simp [Stage.isRefreshing] at refreshing
  | comeAgain waiting =>
      have arrives : (crew.shift worker .arriving).stage worker = .arriving :=
        Function.update_self ..
      rcases waiting with gone | ⟨halt, failed⟩
      · refine accounted.quiet gone arrives others rfl rfl (by simp) ?_
        exact fun refreshing => absurd refreshing Bool.false_ne_true
      · refine accounted.quiet failed arrives others rfl rfl (by simp) ?_
        exact fun refreshing => absurd refreshing Bool.false_ne_true

theorem Proceeds.justified (proceeds : crew.Proceeds grant worker deed after)
    (justified : Justified notes crew) :
    Justified (notes ++ Note.between (crew.stage worker) (after.stage worker)) after := by
  intro other token spurned
  by_cases mover : other = worker
  · rw [mover] at spurned
    exact List.mem_append_right notes (proceeds.rejected_of_spurned spurned)
  · rw [proceeds.stage_of_ne mover] at spurned
    exact List.mem_append_left _ (justified other token spurned)

/-! ## Rounds -/

variable {moves : List (Worker × Deed Source)}

theorem Justified.rounds (justified : Justified added crew)
    (ran : crew.rounds grant moves = some (final, notes)) : Justified (added ++ notes) final := by
  induction moves generalizing crew added notes with
  | nil =>
      cases ran
      rw [List.append_nil]
      exact justified
  | cons move rest ih =>
      obtain ⟨after, later, proceeded, went, rfl⟩ := rounds_cons_eq_some_iff.mp ran
      rw [← List.append_assoc]
      exact ih ((proceeds_of_proceed proceeded).justified justified) went

/-- Rounds leave everything accounted for, as long as the tokens that are kept in them
stay usable. -/
theorem Accounted.rounds (accounted : Accounted added crew) (sound : crew.Sound)
    (justified : Justified added crew)
    (ran : crew.rounds grant moves = some (final, notes))
    (usable : ∀ fresh, .kept fresh ∈ added ++ notes →
      ∀ reading, crew.session.readings ≤ reading → reading < final.session.readings →
        crew.session.accepts fresh reading = true) :
    Accounted (added ++ notes) final := by
  induction moves generalizing crew added notes with
  | nil =>
      cases ran
      rw [List.append_nil]
      exact accounted
  | cons move rest ih =>
      obtain ⟨after, later, proceeded, went, rfl⟩ := rounds_cons_eq_some_iff.mp ran
      have proceeds := proceeds_of_proceed proceeded
      have onwards := readings_le_of_rounds went
      rw [← List.append_assoc] at usable ⊢
      refine ih (proceeds.accounted sound justified accounted ?_) (proceeds.sound sound)
        (proceeds.justified justified) went ?_
      · intro fresh noted read
        refine usable fresh ?_ _ (Nat.le_refl _) (Nat.lt_of_lt_of_le read onwards)
        exact List.mem_append_left _ (List.mem_append_left _ noted)
      · intro fresh noted reading since before
        rw [proceeds.accepts_eq]
        exact usable fresh noted reading (Nat.le_trans proceeds.readings_le since) before

/-! ## The law of all rounds -/

/-- What rejections cost a crew that has made rounds since it came together. -/
structure Restrained (grant : Grant Source) (session : Session Source)
    (crew : Crew Worker Source) (notes : List Note) : Prop where
  /-- What is remembered is given up, by whatever is done next, only after a call that
  was made with it was rejected; or for another token, when it could not be used at the
  latest reading of the clock. -/
  loyal : ∀ worker deed after held, crew.proceed grant worker deed = some after →
    crew.session.token = some held → after.session.token ≠ some held →
      (after.session.token = none ∧ .rejected held.secret.expose ∈ notes) ∨
      ((∃ fresh, after.session.token = some fresh) ∧
        crew.session.holdsUsable (crew.session.readings - 1) = false)
  /-- If the tokens that were granted differ from each other, and those that were kept
  could be used at every reading of the clock, at most one more was granted than were
  rejected. -/
  sparing : ((notes.filterMap Note.granted?).map (·.secret.expose)).Nodup →
    (∀ fresh, .kept fresh ∈ notes →
      ∀ reading, session.readings ≤ reading → reading < crew.session.readings →
        session.accepts fresh reading = true) →
    (notes.filterMap Note.granted?).length ≤
      1 + (notes.filterMap Note.rejected?).toFinset.card

/-- In whatever order the workers of a crew make their rounds, rejections are met with
restraint. -/
theorem restrained_of_rounds {session : Session Source}
    (ran : (gathered session).rounds grant moves = some (crew, notes)) :
    Restrained grant session crew notes where
  loyal worker deed after held proceeded remembers lost := by
    have sound := (sound_gathered session).rounds ran
    have justified := (justified_gathered session).rounds ran
    rcases (proceeds_of_proceed proceeded).token_cases with
      same | ⟨fresh, keeping, kept⟩ | ⟨token, spurned, filtered⟩
    · exact absurd (same.trans remembers) lost
    · exact .inr ⟨⟨fresh, kept⟩, sound.lapsed worker (by rw [keeping]; rfl)⟩
    · rw [filtered, remembers] at lost ⊢
      by_cases same : held.secret.expose = token
      · rw [same]
        exact .inl ⟨by simp [same], justified worker token spurned⟩
      · exact absurd (by simp [same]) lost
  sparing distinct usable := by
    have sound : (gathered session : Crew Worker Source).Sound := sound_gathered session
    have accounted := (accounted_gathered session).rounds sound (justified_gathered session) ran
      usable
    exact accounted.length_granted_le (sound.rounds ran) distinct

namespace Sample

/-- A source that hands out names as tokens for the first hour of 1970. -/
def handOut : Grant (List String)
  | [] => (.error (.tokenRefused "no more"), [])
  | name :: rest => (.ok ⟨⟨name⟩, "1970-01-01T01:00:00Z", ⟨3600, 0⟩⟩, rest)

/-- A session at the start of 1970 that remembers no token and has two to come. -/
def stocked : Session (List String) := ⟨none, 0, fun _ => 0, 0, ["t", "u"]⟩

/-- A call that is rejected. -/
def rejectedCall : Deed (List String) := .call fun _ source => (.error (.status 401 .null), source)

/-- Two workers get the same token.  The first one has it rejected and forgotten, and
comes again for another; only then the second one has the first token rejected. -/
def lateRejection : List (Bool × Deed (List String)) :=
  [(false, .step .look), (false, .step .enter), (false, .step .lookAgain), (false, .step .ask),
    (false, .step .receive), (false, .step .keep), (true, .step .look), (false, rejectedCall),
    (false, .step .forget), (false, .comeAgain), (false, .step .look), (false, .step .enter),
    (false, .step .lookAgain), (false, .step .ask), (false, .step .receive), (false, .step .keep),
    (true, rejectedCall), (true, .step .forget)]

end Sample

/-- The late rejection costs nothing: two tokens were granted, one of them was rejected,
and the other one is still remembered. -/
theorem restrained_of_late_rejection :
    ∃ crew notes,
      (gathered Sample.stocked).rounds Sample.handOut Sample.lateRejection = some (crew, notes) ∧
      Restrained Sample.handOut Sample.stocked crew notes ∧
      (notes.filterMap Note.granted?).length = 2 ∧
      (notes.filterMap Note.rejected?).toFinset.card = 1 ∧
      crew.session.token.map (·.secret.expose) = some "u" := by
  have ended : ((gathered Sample.stocked).rounds Sample.handOut Sample.lateRejection).map
      (fun result => ((result.2.filterMap Note.granted?).length,
        (result.2.filterMap Note.rejected?).toFinset.card,
        result.1.session.token.map (·.secret.expose))) = some (2, 1, some "u") := by
    decide +kernel
  obtain ⟨⟨crew, notes⟩, ran, counted⟩ := Option.map_eq_some_iff.mp ended
  simp only [Prod.mk.injEq] at counted
  obtain ⟨granted, rejected, remembered⟩ := counted
  exact ⟨crew, notes, ran, restrained_of_rounds ran, granted, rejected, remembered⟩

end Crew

end HostedCheckout
