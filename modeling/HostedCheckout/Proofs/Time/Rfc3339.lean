import HostedCheckout.Time.Rfc3339
import Mathlib.Data.List.Infix

/-!
# How a timestamp ends

Each part of a timestamp is taken off the front, so what is left is an end of the text.
The offset comes last: a timestamp that is read ends in a letter, or in a colon and two
digits.
-/

namespace HostedCheckout.Rfc3339

variable {α β : Type} {bytes rest : Bytes}

/-! ## Taking octets -/

theorem bind_eq_ok_iff {first : Reader α} {next : α → Reader β} {value : β} :
    (first >>= next : Reader β) bytes = .ok (value, rest) ↔
      ∃ middle left, first bytes = .ok (middle, left) ∧ next middle left = .ok (value, rest) := by
  simp only [bind, StateT.bind, Except.bind]
  rcases first bytes with fault | ⟨middle, left⟩
  · simp
  · simp

@[simp] theorem get_bind (next : Bytes → Reader β) (bytes : Bytes) :
    ((get : Reader Bytes) >>= next : Reader β) bytes = next bytes bytes := rfl

@[simp] theorem set_bind (next : PUnit → Reader β) (bytes left : Bytes) :
    ((set left : Reader PUnit) >>= next : Reader β) bytes = next ⟨⟩ left := rfl

@[simp] theorem pure_eq_ok_iff {result value : α} :
    (pure result : Reader α) bytes = .ok (value, rest) ↔ result = value ∧ bytes = rest := by
  change Except.ok (result, bytes) = Except.ok (value, rest) ↔ _
  simp

@[simp] theorem refuse_ne_ok {fault : Fault} {taken : α × Bytes} :
    (refuse fault : Reader α) bytes = .ok taken ↔ False := by
  simp [refuse]

theorem octet_eq_ok_iff {taken : UInt8} :
    octet bytes = .ok (taken, rest) ↔ bytes = taken :: rest := by
  cases bytes <;> simp [octet]

theorem digit_eq_ok_iff {value : Nat} :
    digit bytes = .ok (value, rest) ↔
      ∃ taken, digitValue? taken = some value ∧ bytes = taken :: rest := by
  simp only [digit, bind_eq_ok_iff, octet_eq_ok_iff]
  constructor
  · rintro ⟨taken, left, rfl, judged⟩
    cases known : digitValue? taken with
    | none => simp [known] at judged
    | some digit =>
        simp only [known, pure_eq_ok_iff] at judged
        obtain ⟨rfl, rfl⟩ := judged
        exact ⟨taken, known, rfl⟩
  · rintro ⟨taken, known, rfl⟩
    exact ⟨taken, rest, rfl, by simp [known]⟩

theorem oneOf_eq_ok_iff {accepted : Bytes} {value : Unit} :
    oneOf accepted bytes = .ok (value, rest) ↔ ∃ taken ∈ accepted, bytes = taken :: rest := by
  simp only [oneOf, bind_eq_ok_iff, octet_eq_ok_iff]
  constructor
  · rintro ⟨taken, left, rfl, judged⟩
    by_cases among : taken ∈ accepted
    · simp only [List.contains_iff_mem, among, if_true, pure_eq_ok_iff] at judged
      exact ⟨taken, among, by rw [judged.2]⟩
    · simp [among] at judged
  · rintro ⟨taken, among, rfl⟩
    exact ⟨taken, rest, rfl, by simp [among]⟩

/-- Whether an octet is a digit. -/
def isDigit (octet : UInt8) : Bool := (digitValue? octet).isSome

theorem pair_eq_ok {value : Nat} (taken : pair bytes = .ok (value, rest)) :
    ∃ tens units, isDigit tens = true ∧ isDigit units = true ∧ bytes = tens :: units :: rest := by
  simp only [pair, get_bind] at taken
  split at taken
  · simp at taken
  · simp only [number, bind_eq_ok_iff, digit_eq_ok_iff, pure_eq_ok_iff] at taken
    obtain ⟨_, _, ⟨tens, tensDigit, rfl⟩, _, _,
      ⟨_, _, ⟨units, unitsDigit, rfl⟩, _, _, ⟨_, rfl⟩, _, rfl⟩, _, rfl⟩ := taken
    exact ⟨tens, units, by simp [isDigit, tensDigit], by simp [isDigit, unitsDigit], rfl⟩

/-! ## What is left -/

/-- Readers that leave an end of what they are given. -/
def LeavesEnd (reader : Reader α) : Prop :=
  ∀ ⦃bytes value rest⦄, reader bytes = .ok (value, rest) → rest <:+ bytes

namespace LeavesEnd

theorem pure (value : α) : LeavesEnd (pure value) := by
  intro bytes result rest taken
  rw [(pure_eq_ok_iff.mp taken).2]

theorem refuse (fault : Fault) : LeavesEnd (refuse fault : Reader α) :=
  fun _ _ _ taken => absurd taken (by simp)

theorem bind {first : Reader α} {next : α → Reader β} (here : LeavesEnd first)
    (there : ∀ value, LeavesEnd (next value)) : LeavesEnd (first >>= next) := by
  intro bytes value rest taken
  obtain ⟨middle, left, first, later⟩ := bind_eq_ok_iff.mp taken
  exact (there middle later).trans (here first)

theorem octet : LeavesEnd octet := by
  intro bytes taken rest read
  rw [octet_eq_ok_iff.mp read]
  exact List.suffix_cons taken rest

theorem digit : LeavesEnd digit := by
  intro bytes value rest read
  obtain ⟨taken, -, rfl⟩ := digit_eq_ok_iff.mp read
  exact List.suffix_cons taken rest

theorem oneOf (accepted : Bytes) : LeavesEnd (oneOf accepted) := by
  intro bytes value rest read
  obtain ⟨taken, -, rfl⟩ := oneOf_eq_ok_iff.mp read
  exact List.suffix_cons taken rest

theorem number (count : Nat) : LeavesEnd (number count) := by
  induction count with
  | zero => exact .pure 0
  | succ count ih => exact digit.bind fun _ => ih.bind fun _ => .pure _

theorem date : LeavesEnd date :=
  (number 4).bind fun _ => (oneOf _).bind fun _ => (number 2).bind fun _ =>
    (oneOf _).bind fun _ => (number 2).bind fun _ => by
      dsimp only
      split
      · exact .pure _
      · exact .refuse _

theorem fraction : LeavesEnd fraction := by
  intro bytes value rest read
  cases bytes with
  | nil =>
      simp only [Rfc3339.fraction, get_bind, List.head?_nil] at read
      rw [(pure_eq_ok_iff.mp read).2]
  | cons first left =>
      by_cases point : first = 0x2E
      · subst point
        simp only [Rfc3339.fraction, get_bind, List.head?_cons] at read
        obtain ⟨_, after, taken, later⟩ := bind_eq_ok_iff.mp read
        have within : after <:+ 0x2E :: left := LeavesEnd.octet taken
        rw [get_bind] at later
        cases after with
        | nil => simp at later
        | cons next more =>
          dsimp only at later
          split_ifs at later
          · simp at later
          · rw [set_bind] at later
            rw [← (pure_eq_ok_iff.mp later).2]
            exact (List.drop_suffix _ _).trans within
      · simp [Rfc3339.fraction, get_bind, List.head?_cons, point] at read
        rw [← read.2]

theorem timeOfDay : LeavesEnd timeOfDay :=
  (number 2).bind fun _ => (oneOf _).bind fun _ => (number 2).bind fun _ =>
    (oneOf _).bind fun _ => (number 2).bind fun _ => fraction.bind fun _ => by
      dsimp only
      split_ifs
      all_goals first | exact .pure _ | exact .refuse _

theorem sign : LeavesEnd sign := by
  intro bytes value rest read
  simp only [Rfc3339.sign, get_bind] at read
  split at read
  · simp at read
  · simp at read
    rw [← read.2]
    exact List.suffix_cons _ _
  · simp at read
    rw [← read.2]
    exact List.suffix_cons _ _
  · simp at read
    rw [← read.2]
    exact ⟨[0xE2, 0x88, 0x92], rfl⟩
  · simp at read

end LeavesEnd

/-! ## The offset -/

/-- Texts that end as an offset does: in a letter, or in a colon and two digits. -/
inductive EndsInOffset : Bytes → Prop
  | letter (before : Bytes) {letter : UInt8} : letter = 0x5A ∨ letter = 0x7A →
      EndsInOffset (before ++ [letter])
  | digits (before : Bytes) {tens units : UInt8} : isDigit tens = true → isDigit units = true →
      EndsInOffset (before ++ [0x3A, tens, units])

theorem EndsInOffset.of_suffix (closes : EndsInOffset rest) (left : rest <:+ bytes) :
    EndsInOffset bytes := by
  obtain ⟨front, rfl⟩ := left
  cases closes with
  | letter before marked =>
      rw [← List.append_assoc]
      exact .letter _ marked
  | digits before tens units =>
      rw [← List.append_assoc]
      exact .digits _ tens units

/-- Take an offset that is written in hours and minutes. -/
def numericOffset : Reader Int := do
  let negative ← sign
  let hours ← pair
  oneOf [0x3A]
  let minutes ← pair
  if 60 ≤ minutes then refuse .outOfRange
  else
    let total : Int := hours * 60 + minutes
    return if negative then -total else total

theorem offset_nil : offset [] = numericOffset [] := rfl

theorem offset_cons_of_letter {letter : UInt8} (marked : letter = 0x5A ∨ letter = 0x7A)
    (left : Bytes) : offset (letter :: left) = .ok (0, left) := by
  rcases marked with rfl | rfl <;> rfl

theorem offset_cons_of_no_letter {first : UInt8} (other : ¬(first = 0x5A ∨ first = 0x7A))
    (left : Bytes) : offset (first :: left) = numericOffset (first :: left) := by
  rw [not_or] at other
  simp [offset, numericOffset, other]

/-- An offset in hours and minutes that nothing follows. -/
theorem endsInOffset_of_numericOffset {value : Int}
    (read : numericOffset bytes = .ok (value, [])) : EndsInOffset bytes := by
  obtain ⟨_, unsigned, signed, read⟩ := bind_eq_ok_iff.mp read
  obtain ⟨_, colon, hours, read⟩ := bind_eq_ok_iff.mp read
  obtain ⟨_, minutes, separated, read⟩ := bind_eq_ok_iff.mp read
  obtain ⟨_, ended, paired, read⟩ := bind_eq_ok_iff.mp read
  obtain rfl : ended = [] := by
    split_ifs at read
    · simp at read
    · exact (pure_eq_ok_iff.mp read).2
    · exact (pure_eq_ok_iff.mp read).2
  obtain ⟨_, among, rfl⟩ := oneOf_eq_ok_iff.mp separated
  obtain rfl := List.mem_singleton.mp among
  obtain ⟨tens, units, tensDigit, unitsDigit, rfl⟩ := pair_eq_ok paired
  obtain ⟨_, _, _, _, rfl⟩ := pair_eq_ok hours
  exact EndsInOffset.of_suffix (.digits [_, _] tensDigit unitsDigit) (LeavesEnd.sign signed)

/-- An offset that nothing follows. -/
theorem endsInOffset_of_offset {value : Int} (read : offset bytes = .ok (value, [])) :
    EndsInOffset bytes := by
  cases bytes with
  | nil =>
      rw [offset_nil] at read
      exact endsInOffset_of_numericOffset read
  | cons first left =>
      by_cases letter : first = 0x5A ∨ first = 0x7A
      · rw [offset_cons_of_letter letter] at read
        cases read
        exact .letter [] letter
      · rw [offset_cons_of_no_letter letter] at read
        exact endsInOffset_of_numericOffset read

/-- A timestamp that is read ends in its offset. -/
theorem endsInOffset_of_read {text : Bytes} {instant : Instant}
    (read : Rfc3339.read text = .ok instant) : EndsInOffset text := by
  obtain ⟨left, taken⟩ : ∃ left, timestamp text = .ok (instant, left) := by
    unfold Rfc3339.read StateT.run at read
    cases ended : timestamp text with
    | error => simp [ended, Except.map] at read
    | ok taken =>
        rw [ended] at read
        cases read
        exact ⟨_, rfl⟩
  unfold timestamp at taken
  rw [get_bind] at taken
  split_ifs at taken
  · simp at taken
  · obtain ⟨_, dated, date, taken⟩ := bind_eq_ok_iff.mp taken
    obtain ⟨_, separated, mark, taken⟩ := bind_eq_ok_iff.mp taken
    obtain ⟨_, timed, time, taken⟩ := bind_eq_ok_iff.mp taken
    obtain ⟨_, ended, offset, taken⟩ := bind_eq_ok_iff.mp taken
    rw [get_bind] at taken
    have nothing : ended = [] := by
      by_contra more
      simp [more] at taken
    subst nothing
    have within : timed <:+ text :=
      ((LeavesEnd.timeOfDay time).trans (LeavesEnd.oneOf _ mark)).trans (LeavesEnd.date date)
    exact (endsInOffset_of_offset offset).of_suffix within

end HostedCheckout.Rfc3339
