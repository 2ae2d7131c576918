import HostedCheckout.Proofs.Settings.Tree
import HostedCheckout.Settings.Conversion
import Mathlib.Data.List.Induction

/-!
# Converting what the layers have put together

Tables are merged, so what is found under a setting may come from several writes.  It cannot
be converted then: a text or a number is refused if it is a table or an array, and the table
that stands for a mode has one key only.  So if a setting can be converted at all, the last
write that gives anything gives the same by itself.
-/

namespace HostedCheckout.Settings

open Toml

/-! ## Keys of merged tables -/

/-- Putting a value keeps the keys, and adds its own. -/
theorem mem_keys_put {key other : String} {value : Value} {entries : Entries} :
    other ∈ (put key value entries).map Prod.fst ↔
      other = key ∨ other ∈ entries.map Prod.fst := by
  induction entries with
  | nil => simp [put]
  | cons entry rest ih =>
      obtain ⟨held, inner⟩ := entry
      by_cases same : key = held
      · subst same
        simp [put]
      · simp only [put, if_neg same, List.map_cons, List.mem_cons, ih]
        tauto

/-- Merging keeps all keys of both tables. -/
theorem mem_keys_overlayEntries {key : String} {held : Value} {entries : Entries} :
    key ∈ (entriesOf (overlayEntries held entries)).map Prod.fst ↔
      key ∈ (entriesOf held).map Prod.fst ∨ key ∈ entries.map Prod.fst := by
  induction entries generalizing held with
  | nil => simp [overlayEntries]
  | cons entry rest ih =>
      obtain ⟨first, value⟩ := entry
      simp only [overlayEntries, ih, entriesOf_table, mem_keys_put, List.map_cons, List.mem_cons]
      tauto

/-- Merging a table with the key of another one leaves this key. -/
theorem overlayEntries_single {key : String} (value : Value) {entries : Entries}
    (only : ∀ other ∈ entries.map Prod.fst, other = key) :
    ∃ merged, overlayEntries (.table [(key, value)]) entries = .table [(key, merged)] := by
  induction entries generalizing value with
  | nil => exact ⟨value, by rw [overlayEntries]⟩
  | cons entry rest ih =>
      obtain ⟨first, inner⟩ := entry
      obtain rfl : first = key := only first List.mem_cons_self
      have later := ih (overlay (some value) inner) fun other among =>
        only other (List.mem_cons_of_mem first among)
      simpa [overlayEntries, put, entriesOf, lookup_cons_eq] using later

namespace Write

/-- A write that leaves an empty table where nothing was leaves what was found, or an empty
table. -/
theorem assign_of_alone {write : Write} (held : Option Value)
    (empty : write.alone = .table []) :
    assign write.value write.steps held = held.getD (.table []) := by
  obtain ⟨steps, value⟩ := write
  rcases steps with _ | ⟨first | index, rest⟩
  · cases value with
    | table entries =>
        cases entries with
        | nil => rw [assign, overlay, overlayEntries]
        | cons entry rest =>
            have key : entry.1 ∈ (entriesOf (overlayEntries (.table []) (entry :: rest))).map
                Prod.fst := mem_keys_overlayEntries.mpr (.inr List.mem_cons_self)
            have none : overlayEntries (.table []) (entry :: rest) = .table [] := by
              simpa [alone, assign, overlay] using empty
            rw [none] at key
            cases key
    | _ => simp [alone, assign, overlay] at empty
  · have key : first ∈ (entriesOf (alone ⟨.key first :: rest, value⟩)).map Prod.fst :=
      mem_keys_put.mpr (.inl rfl)
    rw [empty] at key
    cases key
  · simp [alone, assign] at empty

end Write

/-! ## Steady conversions -/

/-- A conversion that an empty table does not have, and that sees of several writes only the
last one. -/
structure Steady {α : Type} (convert : Value → Option α) : Prop where
  empty : convert (.table []) = none
  alone : ∀ {write : Write} {held : Option Value} {result : α},
    write.alone ≠ .table [] → convert (assign write.value write.steps held) = some result →
      convert write.alone = some result

/-- A conversion that refuses tables and arrays is steady. -/
theorem Steady.of_refuses {α : Type} {convert : Value → Option α}
    (tables : ∀ entries, convert (.table entries) = none)
    (arrays : ∀ items, convert (.array items) = none) : Steady convert := by
  refine ⟨tables [], ?_⟩
  rintro ⟨steps, value⟩ held result given converted
  rcases steps with _ | ⟨first | index, rest⟩
  · cases value with
    | table entries =>
        cases entries with
        | nil => exact absurd (by simp [Write.alone, assign, overlay, overlayEntries]) given
        | cons entry rest =>
            obtain ⟨after, same⟩ := overlayEntries_cons
              (held.getD (.table [])) entry rest
            rw [assign, overlay, same, tables] at converted
            cases converted
    | _ => exact converted
  · rw [assign, tables] at converted
    cases converted
  · rw [assign, arrays] at converted
    cases converted

theorem steady_text? : Steady text? :=
  .of_refuses (fun _ => rfl) (fun _ => rfl)

theorem steady_number? (limit : Nat) : Steady (number? limit) :=
  .of_refuses (fun _ => rfl) (fun _ => rfl)

/-- The table that stands for a mode has its name as the only key. -/
theorem mode?_table_eq_some {entries : Entries} {mode : NotifyMode}
    (converted : mode? (.table entries) = some mode) :
    ∃ key value, entries = [(key, value)] ∧ NotifyMode.names.lookup key = some mode := by
  rcases entries with _ | ⟨⟨key, value⟩, _ | ⟨other, rest⟩⟩
  · cases converted
  · exact ⟨key, value, rfl, converted⟩
  · cases converted

/-- If a merged table stands for a mode, the upper one does so by itself. -/
theorem mode?_overlayEntries {held : Value} {entry : String × Value} {rest : Entries}
    {mode : NotifyMode} (converted : mode? (overlayEntries held (entry :: rest)) = some mode) :
    mode? (overlayEntries (.table []) (entry :: rest)) = some mode := by
  obtain ⟨first, inner⟩ := entry
  obtain ⟨after, merged⟩ := overlayEntries_cons held (first, inner) rest
  rw [merged] at converted
  obtain ⟨key, value, rfl, named⟩ := mode?_table_eq_some converted
  have only : ∀ other ∈ ((first, inner) :: rest).map Prod.fst, other = key := by
    intro other among
    have kept := mem_keys_overlayEntries.mpr
      (.inr among : other ∈ (entriesOf held).map Prod.fst ∨ _)
    rw [merged] at kept
    simpa using kept
  obtain rfl : first = key := only first List.mem_cons_self
  obtain ⟨left, alone⟩ := overlayEntries_single (overlay none inner)
    fun other among => only other (List.mem_cons_of_mem first among)
  have single : overlayEntries (.table []) ((first, inner) :: rest) = .table [(first, left)] :=
    alone
  rw [single]
  exact named

theorem steady_mode? : Steady mode? := by
  refine ⟨rfl, ?_⟩
  rintro ⟨steps, value⟩ held mode given converted
  rcases steps with _ | ⟨first | index, rest⟩
  · cases value with
    | table entries =>
        cases entries with
        | nil => exact absurd (by simp [Write.alone, assign, overlay, overlayEntries]) given
        | cons entry rest => exact mode?_overlayEntries converted
    | _ => exact converted
  · rw [assign] at converted
    obtain ⟨key, value, single, named⟩ := mode?_table_eq_some converted
    have among : first ∈ [(key, value)].map Prod.fst := by
      rw [← single]
      exact mem_keys_put.mpr (.inl rfl)
    obtain rfl : first = key := by simpa using among
    exact named
  · cases converted

/-! ## The last write that gives anything -/

/-- What a write gives by itself; an empty table is nothing. -/
def Write.gives? (write : Write) : Option Value :=
  match write.alone with
  | .table [] => none
  | value => some value

/-- What the last of some writes gives that gives anything. -/
def lastGiven? (writes : List Write) : Option Value :=
  writes.reverse.findSome? Write.gives?

@[simp] theorem lastGiven?_nil : lastGiven? [] = none := rfl

theorem lastGiven?_append (first second : List Write) :
    lastGiven? (first ++ second) = (lastGiven? second).or (lastGiven? first) := by
  rw [lastGiven?, List.reverse_append, List.findSome?_append]
  rfl

theorem lastGiven?_concat (writes : List Write) (write : Write) :
    lastGiven? (writes ++ [write]) = write.gives?.or (lastGiven? writes) := by
  have single : lastGiven? [write] = write.gives? := by
    cases given : write.gives? <;> simp [lastGiven?, given]
  rw [lastGiven?_append, single]

theorem Write.gives?_of_ne {write : Write} (given : write.alone ≠ .table []) :
    write.gives? = some write.alone := by
  unfold gives?
  split
  · contradiction
  · rfl

theorem Write.gives?_of_eq {write : Write} (empty : write.alone = .table []) :
    write.gives? = none := by
  rw [gives?, empty]

/-- What a setting is when something is given for it, or nothing. -/
def Means {α : Type} (convert : Value → Option α) (fallback : Option α) (given : Option Value)
    (value : α) : Prop :=
  match given with
  | some given => convert given = some value
  | none => fallback = some value

/-- A setting means one thing. -/
theorem Means.unique {α : Type} {convert : Value → Option α} {fallback : Option α}
    {given : Option Value} {value other : α} (means : Means convert fallback given value)
    (also : Means convert fallback given other) : value = other := by
  cases given with
  | none => exact Option.some.inj (means.symm.trans also)
  | some given => exact Option.some.inj (means.symm.trans also)

/-- What is left by some writes can be converted only as the last of them that gives
anything. -/
theorem Steady.convert_lastGiven? {α : Type} {convert : Value → Option α} (steady : Steady convert)
    {writes : List Write} {held : Value} {result : α} (left : settle none writes = some held)
    (converted : convert held = some result) :
    ∃ given, lastGiven? writes = some given ∧ convert given = some result := by
  induction writes using List.reverseRecOn generalizing held with
  | nil => cases left
  | append_singleton writes write ih =>
      have assigned : assign write.value write.steps (settle none writes) = held := by
        rw [settle_append] at left
        exact Option.some.inj left
      rw [lastGiven?_concat]
      by_cases empty : write.alone = .table []
      · rw [Write.gives?_of_eq empty, Option.none_or]
        rw [Write.assign_of_alone _ empty] at assigned
        cases before : settle none writes with
        | none =>
            have nothing : held = .table [] := by rw [← assigned, before]; rfl
            rw [nothing, steady.empty] at converted
            cases converted
        | some earlier =>
            have same : earlier = held := by rw [← assigned, before]; rfl
            exact ih before (same ▸ converted)
      · rw [Write.gives?_of_ne empty, Option.some_or]
        exact ⟨write.alone, rfl, steady.alone empty (assigned ▸ converted)⟩

/-- A setting means what the last write that gives anything gives. -/
theorem Steady.means_lastGiven? {α : Type} {convert : Value → Option α} {fallback : Option α}
    (steady : Steady convert) {writes : List Write} {value : α}
    (means : Means convert fallback (settle none writes) value) :
    Means convert fallback (lastGiven? writes) value := by
  cases left : settle none writes with
  | some held =>
      rw [left] at means
      obtain ⟨given, last, converted⟩ := steady.convert_lastGiven? left means
      rw [last]
      exact converted
  | none =>
      have nothing : writes = [] := by
        induction writes using List.reverseRecOn with
        | nil => rfl
        | append_singleton writes write _ =>
            rw [settle_append] at left
            cases left
      rw [left] at means
      rw [nothing]
      exact means

end HostedCheckout.Settings
