import HostedCheckout.Proofs.Json.Acceptance
import HostedCheckout.Proofs.Json.RoundTrip
import Mathlib.Data.List.DropRight

/-!
# Records that are read and records that are decoded

A record is read from the text of an array if and only if it is decoded from the array that
the text is read as.  The reader of the record takes the elements that it has fields for, and
then wants the end of the array; so it is followed element by element.
-/

namespace HostedCheckout.Json

namespace Scan

variable {α : Type} {bytes left rest : Bytes}

/-! ## Scanners that go on after blanks -/

/-- Blanks are skipped only once. -/
theorem peekToken?_bind_dropWhile (bytes : Bytes) (next : Option UInt8 → Scan α) :
    (peekToken? >>= next : Scan α) (bytes.dropWhile isBlank) =
      (peekToken? >>= next : Scan α) bytes := by
  rw [peekToken?_bind, peekToken?_bind, List.dropWhile_idempotent]

theorem attempt_bind {β : Type} (scanner : Scan α) (next : Except Stop α → Scan β)
    (bytes : Bytes) :
    (attempt scanner >>= next : Scan β) bytes = next (scanner bytes).1 (scanner bytes).2 := rfl

/-- Saying where a scanner stopped changes nothing about how it succeeds. -/
theorem within_eq_ok_iff {step : PathStep} {scanner : Scan α} {value : α} :
    within step scanner bytes = (.ok value, rest) ↔ scanner bytes = (.ok value, rest) := by
  rw [within, attempt_bind]
  rcases scanner bytes with ⟨stop | result, left⟩
  · exact iff_of_false (by rintro ⟨⟩) (by rintro ⟨⟩)
  · rfl

theorem placed_eq_ok_iff {scanner : Scan α} {value : α} :
    placed scanner bytes = (.ok value, rest) ↔ scanner bytes = (.ok value, rest) := by
  rw [placed, attempt_bind]
  rcases scanner bytes with ⟨⟨fault, _ | place, path⟩ | result, left⟩
  · exact iff_of_false (by rintro ⟨⟩) (by rintro ⟨⟩)
  · exact iff_of_false (by rintro ⟨⟩) (by rintro ⟨⟩)
  · rfl

/-- The inside of a bracket is taken, and its end. -/
theorem bracketed_eq_ok_iff {octet : UInt8} {inside : Scan α} {close : Scan Unit} {value : α} :
    bracketed inside close (octet :: bytes) = (.ok value, rest) ↔
      ∃ left, inside bytes = (.ok value, left) ∧ close left = (.ok (), rest) := by
  rw [bracketed, advance_bind_cons, attempt_bind, attempt_bind]
  rcases inside bytes with ⟨stop | result, left⟩
  · exact iff_of_false (by rintro ⟨⟩) (by rintro ⟨_, ⟨⟩, -⟩)
  · dsimp only
    cases closed : close left with
    | mk outcome after =>
        cases outcome with
        | error stop =>
            refine iff_of_false (by rintro ⟨⟩) ?_
            rintro ⟨_, same, ended⟩
            cases same
            rw [closed] at ended
            cases ended
        | ok =>
            constructor
            · intro taken
              cases taken
              exact ⟨left, rfl, closed⟩
            · rintro ⟨_, same, ended⟩
              cases same
              rw [closed] at ended
              cases ended
              rfl

/-! ## Refusals -/

/-- A scanner that never succeeds. -/
def Fails (scanner : Scan α) : Prop :=
  ∀ bytes value rest, scanner bytes ≠ (.ok value, rest)

theorem fails_fail (fault : Fault) : Fails (fail fault : Scan α) := by
  rintro bytes value rest ⟨⟩

theorem fails_failAhead (fault : Fault) : Fails (failAhead fault : Scan α) := by
  rintro bytes value rest ⟨⟩

theorem fails_bind {β : Type} {first : Scan α} {next : α → Scan β}
    (fails : ∀ value, Fails (next value)) : Fails (first >>= next) := by
  intro bytes result rest taken
  obtain ⟨value, left, -, ended⟩ := exists_of_bind_ok taken
  exact fails value left result rest ended

/-- What is not expected is never taken. -/
theorem fails_unexpected (expected : String) : Fails (unexpected expected : Scan α) := by
  refine fails_bind fun seen => ?_
  split
  · exact fails_failAhead _
  · split_ifs
    · exact fails_bind fun _ => fails_fail _
    · exact fails_bind fun _ => fails_fail _
    · exact fails_bind fun _ => fails_fail _
    · exact fails_fail _
    · exact fails_fail _
    · exact fails_failAhead _

/-! ## Values by their first octet -/

/-- How a value is taken, by the octet that it begins with. -/
inductive Parsed (part : Option (Scan Value)) : Bytes → Value → Bytes → Prop where
  | word {octet : UInt8} {more rest : Bytes} {value : Value} (begins : beginsWord octet = true)
      (taken : word octet (octet :: more) = (.ok value, rest)) :
      Parsed part (octet :: more) value rest
  | number {octet : UInt8} {more rest : Bytes} {number : Number}
      (begins : beginsNumber octet = true)
      (taken : Scan.number (octet :: more) = (.ok number, rest)) :
      Parsed part (octet :: more) (.number number) rest
  | string {more rest : Bytes} {text : String}
      (taken : key (0x22 :: more) = (.ok text, rest)) :
      Parsed part (0x22 :: more) (.string text) rest
  | array {more left rest : Bytes} {item : Scan Value} {items : List Value}
      (given : part = some item)
      (taken : elements item (more.length + 1) true [] more = (.ok items, left))
      (closed : closeArray left = (.ok (), rest)) :
      Parsed part (0x5B :: more) (.array items) rest
  | object {more rest : Bytes} {members : Members} :
      Parsed part (0x7B :: more) (.object members) rest

theorem parsed_of_valueOf {part : Option (Scan Value)} {value : Value}
    (taken : valueOf part bytes = (.ok value, rest)) :
    Parsed part (bytes.dropWhile isBlank) value rest := by
  unfold valueOf at taken
  rw [peekToken?_bind] at taken
  generalize bytes.dropWhile isBlank = left at taken
  cases left with
  | nil => cases taken
  | cons octet more =>
      simp only [List.head?_cons] at taken
      split_ifs at taken with word number quote array object
      · exact .word word taken
      · obtain ⟨_, _, read, ended⟩ := exists_of_bind_ok taken
        cases ended
        exact .number number read
      · subst quote
        obtain ⟨_, _, read, ended⟩ := exists_of_bind_ok taken
        cases ended
        exact .string read
      · subst array
        cases part with
        | none => cases taken
        | some item =>
            dsimp only at taken
            rw [advance_bind_cons, get_bind] at taken
            obtain ⟨items, left, read, taken⟩ := exists_of_bind_ok taken
            obtain ⟨_, _, closed, ended⟩ := exists_of_bind_ok taken
            cases ended
            exact .array rfl read closed
      · subst object
        cases part with
        | none => cases taken
        | some item =>
            dsimp only at taken
            rw [advance_bind_cons, get_bind] at taken
            obtain ⟨members, left, read, taken⟩ := exists_of_bind_ok taken
            obtain ⟨_, _, closed, ended⟩ := exists_of_bind_ok taken
            cases ended
            exact .object
      · cases taken

/-- A word begins with the first letter of `null` if it stands for that, and else it does not. -/
theorem eq_null_iff_of_word {octet : UInt8} {value : Value}
    (taken : word octet bytes = (.ok value, rest)) :
    (value = .null ↔ octet = 0x6E) ∧ (∀ text, value ≠ .string text) ∧
      (∀ items, value ≠ .array items) ∧ ∀ members, value ≠ .object members := by
  obtain ⟨_, _, _, taken⟩ := exists_of_bind_ok taken
  split_ifs at taken with null true
  all_goals
    obtain ⟨_, _, _, ended⟩ := exists_of_bind_ok taken
    cases ended
    simp [null]

/-! ## Texts and their absence -/

theorem text_eq (expected : String) :
    Scan.text expected =
      (peekToken? >>= fun seen => if seen = some 0x22 then key else unexpected expected) := by
  unfold Scan.text
  congr 1
  funext seen
  split
  · rw [if_pos rfl]
  · rename_i other
    rw [if_neg other]

theorem optional_eq (scanner : Scan α) :
    Scan.optional scanner =
      (peekToken? >>= fun seen =>
        if seen = some 0x6E then do
          let _ ← word 0x6E
          return none
        else return some (← scanner)) := by
  unfold Scan.optional
  congr 1
  funext seen
  split
  · rw [if_pos rfl]
  · rename_i other
    rw [if_neg other]

theorem text_eq_ok_iff {expected text : String} :
    Scan.text expected bytes = (.ok text, rest) ↔
      ∃ more, bytes.dropWhile isBlank = 0x22 :: more ∧ key (0x22 :: more) = (.ok text, rest) := by
  rw [text_eq, peekToken?_bind]
  generalize bytes.dropWhile isBlank = left
  constructor
  · intro taken
    split_ifs at taken with quote
    · obtain ⟨more, rfl⟩ := List.head?_eq_some_iff.mp quote
      exact ⟨more, rfl, taken⟩
    · exact absurd taken (fails_unexpected _ _ _ _)
  · rintro ⟨more, rfl, taken⟩
    exact taken

theorem optional_eq_ok_iff {scanner : Scan α} {result : Option α} :
    Scan.optional scanner bytes = (.ok result, rest) ↔
      (∃ more, bytes.dropWhile isBlank = 0x6E :: more ∧
        word 0x6E (0x6E :: more) = (.ok .null, rest) ∧ result = none) ∨
      (bytes.dropWhile isBlank).head? ≠ some 0x6E ∧
        ∃ value, scanner (bytes.dropWhile isBlank) = (.ok value, rest) ∧ result = some value := by
  rw [optional_eq, peekToken?_bind]
  generalize bytes.dropWhile isBlank = left
  by_cases null : left.head? = some 0x6E
  · obtain ⟨more, rfl⟩ := List.head?_eq_some_iff.mp null
    rw [if_pos null]
    constructor
    · intro taken
      obtain ⟨value, left, read, ended⟩ := exists_of_bind_ok taken
      cases ended
      obtain rfl := (eq_null_iff_of_word read).1.mpr rfl
      exact .inl ⟨more, rfl, read, rfl⟩
    · rintro (⟨_, same, read, rfl⟩ | ⟨other, -⟩)
      · cases same
        exact bind_of_ok read
      · exact absurd null other
  · rw [if_neg null]
    constructor
    · intro taken
      obtain ⟨value, left, read, ended⟩ := exists_of_bind_ok taken
      cases ended
      exact .inr ⟨null, value, read, rfl⟩
    · rintro (⟨more, rfl, -⟩ | ⟨-, value, read, rfl⟩)
      · exact absurd rfl null
      · exact bind_of_ok read

end Scan

/-- Whether a value of a kind is read of a text if and only if it is decoded from the value that
is read of it. -/
def Kind.Coherent (kind : Kind) : Prop :=
  ∀ depth bytes result rest, kind.read bytes = (.ok result, rest) ↔
    ∃ value, Scan.value depth bytes = (.ok value, rest) ∧ kind.decode value = .ok result

open Scan in
/-- Texts that may be absent are read as values are. -/
theorem Kind.coherent_optional_text : (Kind.optional .text).Coherent := by
  intro depth bytes result rest
  obtain ⟨part, same⟩ := exists_valueOf depth
  have computed {octet : UInt8} {more : Bytes}
      (head : bytes.dropWhile isBlank = octet :: more) :
      Scan.value depth bytes = valueOf part (octet :: more) := by
    rw [same, ← head]
    exact (peekToken?_bind_dropWhile bytes _).symm
  refine optional_eq_ok_iff.trans ⟨?_, ?_⟩
  · rintro (⟨more, head, read, rfl⟩ | ⟨-, text, read, rfl⟩)
    · exact ⟨.null, by rw [computed head, valueOf_of_beginsWord rfl, read], rfl⟩
    · obtain ⟨more, head, read⟩ := text_eq_ok_iff.mp read
      rw [List.dropWhile_idempotent] at head
      refine ⟨.string text, ?_, rfl⟩
      rw [computed head]
      unfold valueOf
      rw [peekToken?_bind_cons (by decide)]
      exact bind_of_ok read
  · rintro ⟨value, taken, decoded⟩
    rw [same] at taken
    have parsed := parsed_of_valueOf taken
    generalize head : bytes.dropWhile isBlank = left at parsed
    cases parsed with
    | @word octet more _ _ begins read =>
        obtain ⟨null, text, -⟩ := eq_null_iff_of_word read
        cases value with
        | null =>
            obtain rfl := null.mp rfl
            cases decoded
            exact .inl ⟨more, rfl, read, rfl⟩
        | string given => exact absurd rfl (text given)
        | boolean | number | array | object => cases decoded
    | number => cases decoded
    | @string more _ text read =>
        cases decoded
        refine .inr ⟨by simp, text, text_eq_ok_iff.mpr ⟨more, rfl, read⟩, rfl⟩
    | array => cases decoded
    | object => cases decoded

namespace Scan

variable {bytes left rest : Bytes}

/-! ## Elements -/

/-- The elements of an array, from the first one or from a later one on, and what follows the
end of the array. -/
inductive Listed (item : Scan Value) : Bool → Bytes → List Value → Bytes → Prop where
  | closed {first : Bool} {bytes rest : Bytes} (closes : closeArray bytes = (.ok (), rest)) :
      Listed item first bytes [] rest
  | element {first : Bool} {bytes more left rest : Bytes} {value : Value} {items : List Value}
      (follows : hasElement first bytes = (.ok true, more)) (taken : item more = (.ok value, left))
      (others : Listed item false left items rest) : Listed item first bytes (value :: items) rest

theorem closeArray_eq_ok_iff :
    closeArray bytes = (.ok (), rest) ↔ bytes.dropWhile isBlank = 0x5D :: rest := by
  unfold closeArray
  rw [peekToken?_bind]
  generalize bytes.dropWhile isBlank = left
  constructor
  · intro closes
    cases left with
    | nil => cases closes
    | cons octet more =>
        simp only [List.head?_cons] at closes
        split_ifs at closes with bracket comma
        · cases closes
          rw [bracket]
          rfl
        · refine absurd closes (fails_bind (fun _ => fails_bind fun seen => ?_) _ _ _)
          split <;> exact fails_failAhead _
        · cases closes
  · rintro rfl
    rfl

/-- No element follows exactly where an array ends. -/
theorem hasElement_eq_false_iff {first : Bool} :
    hasElement first bytes = (.ok false, left) ↔
      ∃ rest, closeArray bytes = (.ok (), rest) ∧ left = 0x5D :: rest := by
  simp only [closeArray_eq_ok_iff]
  unfold hasElement
  rw [peekToken?_bind]
  generalize bytes.dropWhile isBlank = seen
  constructor
  · intro ends
    cases seen with
    | nil => cases ends
    | cons octet more =>
        simp only [List.head?_cons] at ends
        split_ifs at ends with bracket leads comma
        · cases ends
          exact ⟨more, by rw [bracket], by rw [bracket]⟩
        · cases ends
        · obtain ⟨_, _, _, ends⟩ := exists_of_bind_ok ends
          obtain ⟨seen, _, _, ends⟩ := exists_of_bind_ok ends
          cases seen with
          | none => cases ends
          | some next =>
              dsimp only at ends
              split_ifs at ends <;> cases ends
        · cases ends
  · rintro ⟨rest, rfl, rfl⟩
    rfl

theorem hasElement_of_closeArray (closes : closeArray bytes = (.ok (), rest)) (first : Bool) :
    hasElement first bytes = (.ok false, 0x5D :: rest) :=
  hasElement_eq_false_iff.mpr ⟨rest, closes, rfl⟩

namespace Listed

variable {item : Scan Value} {first : Bool} {items others : List Value} {after : Bytes}

/-- An array is listed in one way. -/
theorem unique (listed : Listed item first bytes items rest)
    (again : Listed item first bytes others after) : items = others ∧ rest = after := by
  induction listed generalizing others with
  | @closed first bytes rest closes =>
      have ends := hasElement_of_closeArray closes first
      cases again with
      | closed closesToo =>
          rw [closes] at closesToo
          cases closesToo
          exact ⟨rfl, rfl⟩
      | element follows =>
          rw [ends] at follows
          cases follows
  | @element first bytes more left rest value items follows taken _ ih =>
      cases again with
      | closed closes =>
          rw [hasElement_of_closeArray closes first] at follows
          cases follows
      | element followsToo takenToo later =>
          rw [follows] at followsToo
          cases followsToo
          rw [taken] at takenToo
          cases takenToo
          obtain ⟨rfl, rfl⟩ := ih later
          exact ⟨rfl, rfl⟩

end Listed

/-- The elements that are taken before the end of an array are those that are listed. -/
theorem exists_listed_of_elements {item : Scan Value} {remaining : Nat} {first : Bool}
    {taken all : List Value} (read : elements item remaining first taken bytes = (.ok all, left))
    (closes : closeArray left = (.ok (), rest)) :
    ∃ items, all = taken.reverse ++ items ∧ Listed item first bytes items rest := by
  induction remaining generalizing first taken bytes with
  | zero =>
      cases read
      exact ⟨[], (List.append_nil _).symm, .closed closes⟩
  | succ remaining ih =>
      obtain ⟨follows, more, looked, read⟩ := exists_of_bind_ok read
      cases follows with
      | false =>
          cases read
          obtain ⟨after, closesHere, rfl⟩ := hasElement_eq_false_iff.mp looked
          cases closes
          exact ⟨[], (List.append_nil _).symm, .closed closesHere⟩
      | true =>
          obtain ⟨value, middle, took, read⟩ := exists_of_bind_ok read
          obtain ⟨items, rfl, listed⟩ := ih read
          exact ⟨value :: items, by simp, .element looked took listed⟩

/-- What is read for a field: an element if one follows, and nothing at the end. -/
theorem elementFor_eq_ok_iff {step : PathStep} {first : Bool} {kind : Kind}
    {given : Option kind.Carrier} :
    within step (do if ← hasElement first then return some (← kind.read) else return none) bytes =
        (.ok given, left) ↔
      (∃ more value, hasElement first bytes = (.ok true, more) ∧
        kind.read more = (.ok value, left) ∧ given = some value) ∨
      hasElement first bytes = (.ok false, left) ∧ given = none := by
  rw [within_eq_ok_iff]
  constructor
  · intro taken
    obtain ⟨follows, more, looked, taken⟩ := exists_of_bind_ok taken
    cases follows with
    | false =>
        cases taken
        exact .inr ⟨looked, rfl⟩
    | true =>
        obtain ⟨value, after, read, ended⟩ := exists_of_bind_ok taken
        cases ended
        exact .inl ⟨more, value, looked, read, rfl⟩
  · rintro (⟨more, value, looked, read, rfl⟩ | ⟨looked, rfl⟩)
    · rw [bind_of_ok looked]
      exact bind_of_ok read
    · rw [bind_of_ok looked]
      rfl

section Fields

variable {fields : List Field} {row : Row fields} {name : String} {size depth index : Nat}

/-- Fields that are read up to the end of an array are decoded from its elements. -/
theorem exists_ofElements_of_fieldElements (coherent : ∀ field ∈ fields, field.kind.Coherent)
    (depth : Nat) (taken : fieldElements name size index fields bytes = (.ok row, left))
    (closes : closeArray left = (.ok (), rest)) :
    ∃ items, Listed (value depth) (index == 0) bytes items rest ∧
      Row.ofElements name size index fields items = .ok (row, []) := by
  induction fields generalizing index bytes with
  | nil =>
      cases taken
      exact ⟨[], .closed closes, rfl⟩
  | cons field more ih =>
      have coherentRest : ∀ other ∈ more, other.kind.Coherent := fun other among =>
        coherent other (List.mem_cons_of_mem field among)
      obtain ⟨given, middle, here, taken⟩ := exists_of_bind_ok taken
      rcases elementFor_eq_ok_iff.mp here with ⟨after, value, looked, read, rfl⟩ | ⟨looked, rfl⟩
      · obtain ⟨others, _, rests, ended⟩ := exists_of_bind_ok taken
        cases ended
        obtain ⟨element, parsed, decoded⟩ :=
          (coherent field List.mem_cons_self depth _ _ _).mp read
        obtain ⟨items, listed, later⟩ := ih coherentRest rests
        refine ⟨element :: items, .element looked parsed listed, ?_⟩
        simp only [Row.ofElements, decoded, later]
        rfl
      · obtain ⟨ending, closesHere, rfl⟩ := hasElement_eq_false_iff.mp looked
        cases absent : field.whenAbsent with
        | none =>
            rw [absent] at taken
            cases taken
        | some value =>
            rw [absent] at taken
            obtain ⟨others, _, rests, ended⟩ := exists_of_bind_ok taken
            cases ended
            obtain ⟨items, listed, later⟩ := ih coherentRest rests
            obtain ⟨rfl, rfl⟩ := listed.unique (.closed (closeArray_cons ending))
            refine ⟨[], .closed closesHere, ?_⟩
            simp only [Row.ofElements, absent, later]
            rfl

/-- Fields that are decoded from all elements of an array are read up to its end. -/
theorem exists_fieldElements_of_ofElements (coherent : ∀ field ∈ fields, field.kind.Coherent)
    {items : List Value} (listed : Listed (value depth) (index == 0) bytes items rest)
    (decoded : Row.ofElements name size index fields items = .ok (row, [])) :
    ∃ left, fieldElements name size index fields bytes = (.ok row, left) ∧
      closeArray left = (.ok (), rest) := by
  induction fields generalizing index bytes items with
  | nil =>
      cases decoded
      cases listed with
      | closed closes => exact ⟨bytes, rfl, closes⟩
  | cons field more ih =>
      have coherentRest : ∀ other ∈ more, other.kind.Coherent := fun other among =>
        coherent other (List.mem_cons_of_mem field among)
      unfold fieldElements
      cases listed with
      | closed closes =>
          have looked := hasElement_of_closeArray closes (index == 0)
          cases absent : field.whenAbsent with
          | none =>
              simp only [Row.ofElements, absent] at decoded
              cases decoded
          | some value =>
              simp only [Row.ofElements, absent] at decoded
              obtain ⟨⟨others, left⟩, rests, ended⟩ := bind_eq_ok_iff.mp decoded
              cases ended
              obtain ⟨left, taken, closesLater⟩ :=
                ih coherentRest (.closed (closeArray_cons rest)) rests
              refine ⟨left, ?_, closesLater⟩
              refine (bind_of_ok (elementFor_eq_ok_iff.mpr (.inr ⟨looked, rfl⟩))).trans ?_
              exact bind_of_ok taken
      | @element _ _ after middle _ element items looked taken others =>
          simp only [Row.ofElements] at decoded
          obtain ⟨value, decodedHere, decoded⟩ := bind_eq_ok_iff.mp decoded
          obtain ⟨⟨remaining, left⟩, rests, ended⟩ := bind_eq_ok_iff.mp decoded
          cases ended
          have read := (coherent field List.mem_cons_self depth after value middle).mpr
            ⟨element, taken, decodedHere⟩
          have later : Listed (Scan.value depth) (index + 1 == 0) middle items rest := others
          obtain ⟨left, taken, closes⟩ := ih coherentRest later rests
          refine ⟨left, ?_, closes⟩
          refine (bind_of_ok (elementFor_eq_ok_iff.mpr (.inl ⟨_, _, looked, read, rfl⟩))).trans ?_
          exact bind_of_ok taken

end Fields

/-- A record is read from the text of an array, up to its end. -/
theorem record_array_eq_ok_iff {name : String} {fields : List Field} {row : Row fields}
    (head : bytes.dropWhile isBlank = 0x5B :: left) :
    record name fields bytes = (.ok row, rest) ↔
      ∃ last, fieldElements name fields.length 0 fields left = (.ok row, last) ∧
        closeArray last = (.ok (), rest) := by
  unfold record
  rw [placed_eq_ok_iff, peekToken?_bind, head]
  exact bracketed_eq_ok_iff

/-- A record is read from the text of an array, up to its end, if and only if it is decoded from
the elements that are listed there. -/
theorem record_listed_eq_ok_iff {name : String} {fields : List Field} {row : Row fields}
    {depth : Nat} {items : List Value} {after : Bytes}
    (coherent : ∀ field ∈ fields, field.kind.Coherent)
    (head : bytes.dropWhile isBlank = 0x5B :: left)
    (listed : Listed (value depth) true left items rest) :
    record name fields bytes = (.ok row, after) ↔
      after = rest ∧ Row.ofValue name fields (.array items) = .ok row := by
  rw [Row.ofValue_array_eq_ok_iff_ofElements, record_array_eq_ok_iff head]
  constructor
  · rintro ⟨last, fieldsRead, closes⟩
    obtain ⟨others, again, decoded⟩ :=
      exists_ofElements_of_fieldElements coherent depth fieldsRead closes
    obtain ⟨rfl, rfl⟩ := again.unique listed
    exact ⟨rfl, decoded⟩
  · rintro ⟨rfl, decoded⟩
    exact exists_fieldElements_of_ofElements coherent listed decoded

/-- What begins neither like an array nor like an object is not read as a record. -/
theorem record_ne_ok {name : String} {fields : List Field} {row : Row fields}
    (array : (bytes.dropWhile isBlank).head? ≠ some 0x5B)
    (object : (bytes.dropWhile isBlank).head? ≠ some 0x7B) :
    record name fields bytes ≠ (.ok row, rest) := by
  unfold record
  rw [ne_eq, placed_eq_ok_iff, peekToken?_bind]
  generalize bytes.dropWhile isBlank = left at array object
  cases left with
  | nil => rintro ⟨⟩
  | cons octet more =>
      simp only [List.head?_cons, ne_eq, Option.some.injEq] at array object ⊢
      rw [if_neg array, if_neg object]
      exact fails_unexpected _ _ _ _

end Scan

/-! ## Records that are not objects -/

section Texts

variable {α : Type} {name : String} {fields : List Field} {build : Row fields → α}
  {text : Bytes} {value : Value} {result : α}

open Scan

theorem Scan.document_eq_ok_iff {scanner : Scan α} :
    (document scanner).run text = .ok result ↔
      ∃ left rest, scanner text = (.ok result, left) ∧ finish left = (.ok (), rest) := by
  constructor
  · intro read
    obtain ⟨last, taken⟩ := exists_of_run_ok read
    obtain ⟨value, left, taken, ended⟩ := exists_of_bind_ok taken
    obtain ⟨_, _, finished, ended⟩ := exists_of_bind_ok ended
    cases ended
    exact ⟨left, _, taken, finished⟩
  · rintro ⟨left, rest, taken, finished⟩
    have ended : document scanner text = (.ok result, rest) := by
      rw [document, bind_of_ok taken, bind_of_ok finished]
      rfl
    exact run_of_ok ended

/-- A record is read of a text when its fields are, up to the end of the text. -/
theorem Kind.readText_eq_ok_iff :
    (Kind.record name fields build).readText text = .ok result ↔
      ∃ row left rest, Scan.record name fields text = (.ok row, left) ∧
        finish left = (.ok (), rest) ∧ build row = result := by
  refine Scan.document_eq_ok_iff.trans ⟨?_, ?_⟩
  · rintro ⟨left, rest, taken, finished⟩
    change (build <$> Scan.record name fields) text = _ at taken
    rw [map_eq_pure_bind] at taken
    obtain ⟨row, _, taken, ended⟩ := exists_of_bind_ok taken
    cases ended
    exact ⟨row, left, rest, taken, finished, rfl⟩
  · rintro ⟨row, left, rest, taken, finished, rfl⟩
    exact ⟨left, rest, map_of_ok taken build, finished⟩

/-- A record is read of a text that is not that of an object if and only if it is decoded from
the value that is read of the text. -/
theorem Kind.readText_record_eq_ok_iff (coherent : ∀ field ∈ fields, field.kind.Coherent)
    (document : Value.read text = .ok value) (bare : ∀ members, value ≠ .object members) :
    (Kind.record name fields build).readText text = .ok result ↔
      (Kind.record name fields build).ofValue value = .ok result := by
  obtain ⟨left, rest, taken, finished⟩ := Scan.document_eq_ok_iff.mp document
  have parsed : Parsed (some (Scan.value 126)) (text.dropWhile isBlank) value left :=
    parsed_of_valueOf taken
  rw [Kind.readText_eq_ok_iff]
  -- What is no array is no record, whether it is read or decoded.
  have refused (array : ∀ items, value ≠ .array items)
      (bracket : (text.dropWhile isBlank).head? ≠ some 0x5B)
      (brace : (text.dropWhile isBlank).head? ≠ some 0x7B) :
      (∃ row left rest, Scan.record name fields text = (.ok row, left) ∧
        finish left = (.ok (), rest) ∧ build row = result) ↔
      (Kind.record name fields build).ofValue value = .ok result := by
    refine iff_of_false ?_ (Kind.ofValue_scalar_ne_ok array bare)
    rintro ⟨row, left, rest, read, -⟩
    exact record_ne_ok bracket brace read
  generalize head : text.dropWhile isBlank = front at parsed
  rw [head] at refused
  cases parsed with
  | @word octet more _ _ begins read =>
      refine refused (eq_null_iff_of_word read).2.2.1 ?_ ?_ <;>
        · rintro ⟨⟩
          cases begins
  | @number octet more number _ begins read =>
      refine refused (by simp) ?_ ?_ <;>
        · rintro ⟨⟩
          cases begins
  | string read => exact refused (by simp) (by simp) (by simp)
  | object => exact absurd rfl (bare _)
  | @array more middle _ item items given read closed =>
      obtain rfl := Option.some.inj given
      obtain ⟨_, rfl, listed⟩ := exists_listed_of_elements read closed
      rw [Kind.ofValue_record_eq_ok_iff]
      constructor
      · rintro ⟨row, after, _, taken, -, rfl⟩
        exact ⟨row, ((record_listed_eq_ok_iff coherent head listed).mp taken).2, rfl⟩
      · rintro ⟨row, accepted, rfl⟩
        have again := (record_listed_eq_ok_iff coherent head listed).mpr ⟨rfl, accepted⟩
        exact ⟨row, left, rest, again, finished, rfl⟩

end Texts

end HostedCheckout.Json
