import HostedCheckout.Json.Reader
import HostedCheckout.Proofs.Json.Spelling

/-!
# Texts that are read

Whatever is read as a value is the octets of a text.  A scanner that succeeds takes whole
characters: marks, words and numerals are ASCII, strings are known to be whole, and an array or
object takes what its parts take.
-/

namespace HostedCheckout.Json

namespace Scan

variable {α β : Type} {bytes : Bytes}

/-- A scanner that takes whole characters off a text when it succeeds. -/
def Takes (scanner : Scan α) (bytes : Bytes) : Prop :=
  ∀ value rest, scanner bytes = (.ok value, rest) →
    ∃ characters, bytes = Utf8.encode characters ++ rest

/-! ## Steps of a scanner -/

theorem takes_pure (value : α) : Takes (pure value : Scan α) bytes := by
  rintro _ rest taken
  rw [pure_eq] at taken
  obtain ⟨-, rfl⟩ := taken
  exact ⟨[], rfl⟩

theorem takes_fail (fault : Fault) : Takes (fail fault : Scan α) bytes := by
  rintro value rest ⟨⟩

theorem takes_failAhead (fault : Fault) : Takes (failAhead fault : Scan α) bytes := by
  rintro value rest ⟨⟩

theorem takes_advance_fail (fault : Fault) :
    Takes (advance >>= fun _ => fail fault : Scan α) bytes := by
  rintro value rest ⟨⟩

/-- What a scanner and the next one take is taken by both. -/
theorem takes_bind {first : Scan α} {next : α → Scan β} (before : Takes first bytes)
    (after : ∀ value rest, first bytes = (.ok value, rest) → Takes (next value) rest) :
    Takes (first >>= next) bytes := by
  intro result rest taken
  obtain ⟨value, left, ran, ended⟩ := exists_of_bind_ok taken
  obtain ⟨front, rfl⟩ := before value left ran
  obtain ⟨back, rfl⟩ := after value left ran result rest ended
  exact ⟨front ++ back, by rw [Utf8.encode_append, List.append_assoc]⟩

theorem takes_map {scanner : Scan α} (function : α → β) (taken : Takes scanner bytes) :
    Takes (function <$> scanner) bytes := by
  rw [map_eq_pure_bind]
  exact takes_bind taken fun _ _ _ => takes_pure _

theorem takes_get {next : Bytes → Scan α} (after : Takes (next bytes) bytes) :
    Takes ((get : Scan Bytes) >>= next) bytes :=
  after

theorem takes_peek? {next : Option UInt8 → Scan α} (after : Takes (next bytes.head?) bytes) :
    Takes (peek? >>= next) bytes :=
  after

/-- Octets of ASCII may be passed over. -/
theorem takes_of_ascii {scanner next : Scan α} {octets rest : Bytes}
    (split : bytes = octets ++ rest) (ascii : ∀ octet ∈ octets, octet < 0x80)
    (goesOn : scanner bytes = next rest) (after : Takes next rest) : Takes scanner bytes := by
  intro value left taken
  obtain ⟨characters, same⟩ := after value left (goesOn ▸ taken)
  refine ⟨octets.map (fun octet => Char.ofNat octet.toNat) ++ characters, ?_⟩
  rw [Utf8.encode_append, Utf8.encode_ascii ascii, List.append_assoc, ← same, split]

theorem takes_of_dropWhile {accept : UInt8 → Bool} {scanner next : Scan α}
    (ascii : ∀ octet, accept octet = true → octet < 0x80)
    (goesOn : scanner bytes = next (bytes.dropWhile accept))
    (after : Takes next (bytes.dropWhile accept)) : Takes scanner bytes :=
  takes_of_ascii List.takeWhile_append_dropWhile.symm
    (fun octet among => ascii octet (List.all_eq_true.mp List.all_takeWhile octet among))
    goesOn after

theorem takes_advance {octet : UInt8} (head : bytes.head? = some octet) (ascii : octet < 0x80) :
    Takes advance bytes := by
  obtain ⟨rest, rfl⟩ := List.head?_eq_some_iff.mp head
  have split : octet :: rest = [octet] ++ rest := rfl
  have goesOn : advance (octet :: rest) = (pure () : Scan Unit) rest := rfl
  exact takes_of_ascii split (by simpa using ascii) goesOn (takes_pure ())

/-- A mark of ASCII is taken before what follows it. -/
theorem takes_advance_bind {octet : UInt8} {next : Unit → Scan α}
    (head : bytes.head? = some octet) (ascii : octet < 0x80)
    (after : ∀ rest, Takes (next ()) rest) : Takes (advance >>= next) bytes :=
  takes_bind (takes_advance head ascii) fun _ rest _ => after rest

theorem ascii_of_isBlank (octet : UInt8) (blank : isBlank octet = true) : octet < 0x80 := by
  simp only [isBlank, Bool.or_eq_true, beq_iff_eq] at blank
  rcases blank with ((rfl | rfl) | rfl) | rfl <;> decide

theorem ascii_of_isDigit (octet : UInt8) (digit : isDigit octet = true) : octet < 0x80 := by
  simp only [isDigit, Bool.and_eq_true, decide_eq_true_eq] at digit
  exact UInt8.lt_of_le_of_lt digit.2 (by decide)

/-- Blanks are passed over before what follows is looked at. -/
theorem takes_peekToken? {next : Option UInt8 → Scan α}
    (after : ∀ rest : Bytes, Takes (next rest.head?) rest) :
    Takes (peekToken? >>= next) bytes :=
  takes_of_dropWhile ascii_of_isBlank rfl (after _)

theorem takes_skipDigits {next : Unit → Scan α} (after : ∀ rest, Takes (next ()) rest) :
    Takes (skipDigits >>= next) bytes :=
  takes_of_dropWhile ascii_of_isDigit rfl (after _)

/-! ## Words and numbers -/

theorem eq_append_of_literal {expected rest : Bytes} {value : Unit}
    (taken : literal expected bytes = (.ok value, rest)) : bytes = expected ++ rest := by
  induction expected generalizing bytes with
  | nil =>
      rw [literal, pure_eq] at taken
      obtain ⟨-, rfl⟩ := taken
      rfl
  | cons octet more ih =>
      cases bytes with
      | nil => cases taken
      | cons other after =>
          rw [literal, peek?_bind_cons] at taken
          dsimp only at taken
          rw [advance_bind_cons] at taken
          split at taken
          · rename_i same
            rw [same, ih taken, List.cons_append]
          · cases taken

theorem takes_literal {expected : Bytes} (ascii : expected.all (· < 0x80) = true) :
    Takes (literal expected) bytes := by
  intro value rest taken
  refine ⟨expected.map fun octet => Char.ofNat octet.toNat, ?_⟩
  rw [Utf8.encode_ascii (by simpa using ascii)]
  exact eq_append_of_literal taken

theorem takes_word {octet : UInt8} (head : bytes.head? = some octet)
    (begins : beginsWord octet = true) : Takes (word octet) bytes := by
  have ascii : octet < 0x80 := by
    simp only [beginsWord, Bool.or_eq_true, beq_iff_eq] at begins
    rcases begins with (rfl | rfl) | rfl <;> decide
  refine takes_advance_bind head ascii fun rest => ?_
  split_ifs <;> exact takes_bind (takes_literal (by decide)) fun _ _ _ => takes_pure _

/-- Digits that are taken stand before what is left. -/
theorem exists_digits_of_takeDigits (limit value count : Nat) (bytes : Bytes) :
    ∃ digits, bytes = digits ++ (takeDigits limit value count bytes).2.2 ∧
      ∀ octet ∈ digits, octet < 0x80 := by
  fun_induction takeDigits limit value count bytes with
  | case1 => exact ⟨[], rfl, by simp⟩
  | case2 value count octet rest longer digit ih =>
      obtain ⟨digits, same, ascii⟩ := ih
      refine ⟨octet :: digits, by rw [List.cons_append, ← same], ?_⟩
      simp only [List.mem_cons, forall_eq_or_imp]
      exact ⟨ascii_of_isDigit octet digit.1, ascii⟩
  | case3 => exact ⟨[], rfl, by simp⟩

theorem takes_takeDigits {limit value count : Nat} {next : PUnit → Scan α}
    (after : Takes (next ⟨⟩) (takeDigits limit value count bytes).2.2) :
    Takes ((set (takeDigits limit value count bytes).2.2 : Scan PUnit) >>= next) bytes := by
  obtain ⟨digits, same, ascii⟩ := exists_digits_of_takeDigits limit value count bytes
  exact takes_of_ascii same ascii rfl after

/-- Digits may be passed over that were too many to be taken. -/
theorem takes_allDigits {limit value count : Nat} {next : PUnit → Scan α}
    (after : ∀ rest, Takes (next ⟨⟩) rest) :
    Takes ((set ((takeDigits limit value count bytes).2.2.drop
      ((takeDigits limit value count bytes).2.2.takeWhile isDigit).length) : Scan PUnit) >>= next)
        bytes := by
  obtain ⟨digits, same, ascii⟩ := exists_digits_of_takeDigits limit value count bytes
  generalize (takeDigits limit value count bytes).2.2 = left at same ⊢
  have beyond := List.prefix_iff_eq_append.mp (List.takeWhile_prefix (l := left) isDigit)
  have split : bytes = (digits ++ left.takeWhile isDigit) ++
      left.drop (left.takeWhile isDigit).length := by
    rw [List.append_assoc, beyond, same]
  refine takes_of_ascii split (fun octet among => ?_) rfl (after _)
  rcases List.mem_append.mp among with taken | passed
  · exact ascii octet taken
  · exact ascii_of_isDigit octet (List.all_eq_true.mp List.all_takeWhile octet passed)

theorem takes_float (negative : Bool) (significand : Nat) (exponent : Int) :
    Takes (float negative significand exponent) bytes := by
  unfold float
  split
  · exact takes_pure _
  · exact takes_fail _

/-- The sign of an exponent, if there is one. -/
theorem takes_sign {next : Bool → Scan α} (after : ∀ down rest, Takes (next down) rest) :
    Takes (do
      match ← peek? with
      | some 0x2B => do advance; let down ← pure false; next down
      | some 0x2D => do advance; let down ← pure true; next down
      | _ => do let down ← pure false; next down) bytes := by
  have chosen (down : Bool) (rest : Bytes) : Takes (pure down >>= next) rest :=
    takes_bind (takes_pure down) fun down rest _ => after down rest
  refine takes_peek? ?_
  split
  · rename_i plus
    exact takes_advance_bind plus (by decide) (chosen false)
  · rename_i minus
    exact takes_advance_bind minus (by decide) (chosen true)
  · exact chosen false bytes

theorem exists_head_of_isDigit (digit : (bytes.head?.map isDigit).getD false = true) :
    ∃ octet, bytes.head? = some octet ∧ octet < 0x80 := by
  cases head : bytes.head? with
  | none => simp [head] at digit
  | some octet => exact ⟨octet, rfl, ascii_of_isDigit octet (by simpa [head] using digit)⟩

theorem takes_exponentPart {octet : UInt8} (head : bytes.head? = some octet) (ascii : octet < 0x80)
    (negative : Bool) (significand : Nat) (exponent : Int) :
    Takes (exponentPart negative significand exponent) bytes := by
  refine takes_advance_bind head ascii fun _ => takes_sign fun down rest => takes_peek? ?_
  split
  · exact takes_fail _
  · split
    · refine takes_get (takes_takeDigits ?_)
      split
      · rename_i digit
        obtain ⟨next, nextHead, nextAscii⟩ := exists_head_of_isDigit digit
        refine takes_advance_bind nextHead nextAscii fun _ => ?_
        split
        · exact takes_fail _
        · exact takes_skipDigits fun _ => takes_pure _
      · exact takes_float _ _ _
    · exact takes_advance_fail _

theorem takes_afterDigits (negative : Bool) (significand : Nat) (exponent : Int) :
    Takes (afterDigits negative significand exponent) bytes := by
  refine takes_peek? ?_
  split
  · rename_i mark
    exact takes_exponentPart mark (by decide) _ _ _
  · rename_i mark
    exact takes_exponentPart mark (by decide) _ _ _
  · exact takes_float _ _ _

theorem takes_fractionPart {octet : UInt8} (head : bytes.head? = some octet) (ascii : octet < 0x80)
    (negative : Bool) (significand : Nat) (exponent : Int) :
    Takes (fractionPart negative significand exponent) bytes := by
  refine takes_advance_bind head ascii fun _ => takes_get (takes_takeDigits ?_)
  split
  · exact takes_skipDigits fun _ => takes_afterDigits _ _ _
  · split
    · refine takes_peek? ?_
      split <;> exact takes_failAhead _
    · exact takes_afterDigits _ _ _

theorem takes_numberTail (negative : Bool) (value : Nat) :
    Takes (numberTail negative value) bytes := by
  refine takes_peek? ?_
  split
  · rename_i point
    exact takes_map _ (takes_fractionPart point (by decide) _ _ _)
  · rename_i mark
    exact takes_map _ (takes_exponentPart mark (by decide) _ _ _)
  · rename_i mark
    exact takes_map _ (takes_exponentPart mark (by decide) _ _ _)
  · exact takes_pure _

theorem takes_unsignedNumber (negative : Bool) : Takes (unsignedNumber negative) bytes := by
  refine takes_peek? ?_
  split
  · exact takes_fail _
  · rename_i zero
    refine takes_advance_bind zero (by decide) fun rest => takes_peek? ?_
    split
    · split
      · exact takes_failAhead _
      · exact takes_numberTail _ _
    · exact takes_numberTail _ _
  · split
    · refine takes_get (takes_allDigits fun rest => ?_)
      split
      · exact takes_numberTail _ _
      · refine takes_peek? ?_
        split
        · rename_i point
          exact takes_map _ (takes_fractionPart point (by decide) _ _ _)
        · exact takes_map _ (takes_afterDigits _ _ _)
    · exact takes_advance_fail _

theorem takes_number : Takes number bytes := by
  refine takes_peek? ?_
  split
  · rename_i minus
    exact takes_advance_bind minus (by decide) fun _ => takes_unsignedNumber true
  · exact takes_unsignedNumber false

/-! ## Values -/

theorem takes_key (quote : bytes.head? = some 0x22) : Takes key bytes := by
  refine takes_advance_bind quote (by decide) fun rest text left taken => ?_
  obtain ⟨characters, rfl⟩ := exists_encode_of_string taken
  refine ⟨characters ++ ['"'], ?_⟩
  rw [Utf8.encode_append, List.append_assoc]
  rfl

theorem takes_hasElement (first : Bool) : Takes (hasElement first) bytes := by
  refine takes_peekToken? fun rest => ?_
  split
  · exact takes_failAhead _
  · rename_i head
    split_ifs with closed leads comma
    · exact takes_pure _
    · exact takes_pure _
    · subst comma
      refine takes_advance_bind head (by decide) fun _ => takes_peekToken? fun _ => ?_
      split
      · exact takes_failAhead _
      · split_ifs
        · exact takes_failAhead _
        · exact takes_pure _
    · exact takes_failAhead _

theorem takes_hasMember (first : Bool) : Takes (hasMember first) bytes := by
  refine takes_peekToken? fun rest => ?_
  split
  · exact takes_failAhead _
  · rename_i head
    split_ifs with closed leads quote comma
    · exact takes_pure _
    · exact takes_pure _
    · exact takes_failAhead _
    · subst comma
      refine takes_advance_bind head (by decide) fun _ => takes_peekToken? fun _ => ?_
      split
      · exact takes_failAhead _
      · split_ifs
        · exact takes_pure _
        · exact takes_failAhead _
        · exact takes_failAhead _
    · exact takes_failAhead _

/-- A member begins with the quote of its key. -/
theorem head?_of_hasMember {first : Bool} {rest : Bytes}
    (more : hasMember first bytes = (.ok true, rest)) : rest.head? = some 0x22 := by
  unfold hasMember at more
  rw [peekToken?_bind] at more
  generalize bytes.dropWhile isBlank = left at more
  cases left with
  | nil => cases more
  | cons octet tail =>
      simp only [List.head?_cons] at more
      split_ifs at more with closed leads quote comma
      · cases more
      · obtain ⟨-, rfl⟩ := more
        rw [List.head?_cons, quote]
      · cases more
      · rw [advance_bind_cons, peekToken?_bind] at more
        generalize tail.dropWhile isBlank = left at more
        cases left with
        | nil => cases more
        | cons next later =>
            simp only [List.head?_cons] at more
            split_ifs at more with quote
            · obtain ⟨-, rfl⟩ := more
              rw [List.head?_cons, quote]
            · cases more
            · cases more
      · cases more

theorem takes_closeArray : Takes closeArray bytes := by
  refine takes_peekToken? fun rest => ?_
  split
  · exact takes_failAhead _
  · rename_i head
    split_ifs with closed comma
    · subst closed
      exact takes_advance head (by decide)
    · subst comma
      refine takes_advance_bind head (by decide) fun _ => takes_peekToken? fun _ => ?_
      split <;> exact takes_failAhead _
    · exact takes_failAhead _

theorem takes_closeObject : Takes closeObject bytes := by
  refine takes_peekToken? fun rest => ?_
  split
  · exact takes_failAhead _
  · rename_i head
    split_ifs with closed
    · subst closed
      exact takes_advance head (by decide)
    · exact takes_failAhead _
    · exact takes_failAhead _

theorem takes_colon : Takes colon bytes := by
  refine takes_peekToken? fun rest => ?_
  split
  · exact takes_failAhead _
  · rename_i head
    split_ifs with same
    · subst same
      exact takes_advance head (by decide)
    · exact takes_failAhead _

section Parts

variable {item : Scan Value} (takesItem : ∀ bytes, Takes item bytes)

include takesItem

theorem takes_elements (remaining : Nat) (first : Bool) (taken : List Value) :
    Takes (elements item remaining first taken) bytes := by
  induction remaining generalizing first taken bytes with
  | zero => exact takes_pure _
  | succ remaining ih =>
      refine takes_bind (takes_hasElement first) fun more rest _ => ?_
      cases more with
      | false => exact takes_pure _
      | true => exact takes_bind (takesItem rest) fun value _ _ => ih false (value :: taken)

theorem takes_members (remaining : Nat) (first : Bool) (taken : Members) :
    Takes (members item remaining first taken) bytes := by
  induction remaining generalizing first taken bytes with
  | zero => exact takes_pure _
  | succ remaining ih =>
      refine takes_bind (takes_hasMember first) fun more rest follows => ?_
      cases more with
      | false => exact takes_pure _
      | true =>
          refine takes_bind (takes_key (head?_of_hasMember follows)) fun name _ _ => ?_
          refine takes_bind takes_colon fun _ rest _ => ?_
          exact takes_bind (takesItem rest) fun value _ _ => ih false (taken.insert name value)

end Parts

theorem takes_valueOf {part : Option (Scan Value)}
    (takesPart : ∀ item ∈ part, ∀ bytes, Takes item bytes) : Takes (valueOf part) bytes := by
  refine takes_peekToken? fun rest => ?_
  split
  · exact takes_failAhead _
  · rename_i head
    split_ifs with word number quote array object
    · exact takes_word head word
    · exact takes_map _ takes_number
    · subst quote
      exact takes_map _ (takes_key head)
    · subst array
      cases part with
      | none => exact takes_failAhead _
      | some item =>
          refine takes_advance_bind head (by decide) fun rest => takes_get ?_
          refine takes_bind (takes_elements (takesPart item rfl) _ _ _) fun items _ _ => ?_
          exact takes_bind takes_closeArray fun _ _ _ => takes_pure _
    · subst object
      cases part with
      | none => exact takes_failAhead _
      | some item =>
          refine takes_advance_bind head (by decide) fun rest => takes_get ?_
          refine takes_bind (takes_members (takesPart item rfl) _ _ _) fun taken _ _ => ?_
          exact takes_bind takes_closeObject fun _ _ _ => takes_pure _
    · exact takes_failAhead _

/-- A value takes whole characters, however deep its parts are nested. -/
theorem takes_value (depth : Nat) (bytes : Bytes) : Takes (value depth) bytes := by
  induction depth generalizing bytes with
  | zero => exact takes_valueOf (by simp)
  | succ depth ih =>
      refine takes_valueOf fun item among bytes => ?_
      obtain rfl := Option.some.inj among
      exact ih bytes

theorem takes_finish : Takes finish bytes := by
  refine takes_peekToken? fun rest => ?_
  split
  · exact takes_pure _
  · exact takes_failAhead _

theorem eq_nil_of_finish {rest : Bytes} {value : Unit}
    (ended : finish bytes = (.ok value, rest)) : rest = [] := by
  unfold finish at ended
  rw [peekToken?_bind] at ended
  generalize bytes.dropWhile isBlank = left at ended
  cases left with
  | nil =>
      obtain ⟨-, rfl⟩ := ended
      rfl
  | cons octet more => cases ended

/-- A text of which a scanner takes everything is the octets of a string. -/
theorem exists_ofString_of_document {scanner : Scan α} (takes : Takes scanner bytes) {value : α}
    (read : (document scanner).run bytes = .ok value) : ∃ text, bytes = Bytes.ofString text := by
  obtain ⟨rest, taken⟩ := exists_of_run_ok read
  have takesAll : Takes (document scanner) bytes :=
    takes_bind takes fun _ _ _ => takes_bind takes_finish fun _ _ _ => takes_pure _
  obtain ⟨characters, same⟩ := takesAll value rest taken
  obtain ⟨_, _, _, afterValue⟩ := exists_of_bind_ok taken
  obtain ⟨_, _, finished, afterFinish⟩ := exists_of_bind_ok afterValue
  rw [pure_eq] at afterFinish
  obtain ⟨-, rfl⟩ := afterFinish
  rw [eq_nil_of_finish finished, List.append_nil] at same
  exact ⟨String.ofList characters, by rw [same, Bytes.ofString_ofList]⟩

end Scan

/-- Only the octets of a string are read as a value. -/
theorem Value.exists_ofString_of_read {octets : Bytes} {value : Value}
    (read : Value.read octets = .ok value) : ∃ text, octets = Bytes.ofString text :=
  Scan.exists_ofString_of_document (Scan.takes_value Scan.depthLimit octets) read

end HostedCheckout.Json
