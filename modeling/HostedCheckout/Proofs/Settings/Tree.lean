import HostedCheckout.Proofs.Json.Members
import HostedCheckout.Settings.Tree
import Mathlib.Data.List.Basic
import Mathlib.Tactic.SplitIfs

/-!
# Reading what was put into the tree

A setting stands in a section under its name.  An entry of a layer concerns a section if its
path begins with the section; it concerns a setting if the path leads on to the name, or if
the entry gives the section as a table that has the name.  Whatever else is put into the
tree, a setting holds what the entries that concern it have put there, one after the other.
-/

namespace HostedCheckout.Settings

open Toml

/-! ## Entries of a table -/

theorem lookup_put (key other : String) (value : Value) (entries : Entries) :
    (put key value entries).lookup other =
      if other = key then some value else entries.lookup other := by
  induction entries with
  | nil => rw [put, lookup_cons_eq]
  | cons entry rest ih =>
      obtain ⟨held, inner⟩ := entry
      by_cases same : key = held
      · subst same
        rw [put, if_pos rfl, lookup_cons_eq, lookup_cons_eq]
        split_ifs <;> rfl
      · rw [put, if_neg same, lookup_cons_eq, ih, lookup_cons_eq]
        by_cases asked : other = held
        · rw [if_pos asked, if_neg (asked ▸ Ne.symm same), if_pos asked]
        · rw [if_neg asked, if_neg asked]

@[simp] theorem entriesOf_table (entries : Entries) : entriesOf (.table entries) = entries := rfl

/-- What stands under a name in a value, if this is a table. -/
def member? (name : String) (value : Option Value) : Option Value :=
  (entriesOf (value.getD (.table []))).lookup name

theorem member?_table (name : String) (entries : Entries) :
    member? name (some (.table entries)) = entries.lookup name := rfl

/-! ## Writes -/

/-- A value that is put over what is found after some steps. -/
structure Write where
  steps : List Step
  value : Value

namespace Write

/-- What a write leaves where it is made. -/
def apply (held : Option Value) (write : Write) : Option Value :=
  some (assign write.value write.steps held)

/-- What a write leaves where nothing was. -/
def alone (write : Write) : Value :=
  assign write.value write.steps none

/-- What a write means for a member of the value that it is made to. -/
def toMember (name : String) (write : Write) : List Write :=
  match write.steps with
  | .key first :: rest => if first = name then [⟨rest, write.value⟩] else []
  | .place _ :: _ => []
  | [] => ((entriesOf write.value).filter fun entry => entry.1 = name).map fun entry =>
      ⟨[], entry.2⟩

/-- Whether a write leaves a table where a table was: it leads on to a name, or is a table
itself. -/
def keepsTable (write : Write) : Bool :=
  match write.steps, write.value with
  | .key _ :: _, _ => true
  | .place _ :: _, _ => false
  | [], .table _ => true
  | [], _ => false

theorem exists_table_of_keepsTable {value : Value} (keeps : keepsTable ⟨[], value⟩ = true) :
    ∃ entries, value = .table entries := by
  cases value with
  | table entries => exact ⟨entries, rfl⟩
  | _ => cases keeps

end Write

/-- What is left by some writes, one after the other. -/
def settle (held : Option Value) (writes : List Write) : Option Value :=
  writes.foldl Write.apply held

theorem settle_append (held : Option Value) (first second : List Write) :
    settle held (first ++ second) = settle (settle held first) second :=
  List.foldl_append

theorem member?_overlayEntries (name : String) (held : Value) (entries : Entries) :
    (entriesOf (overlayEntries held entries)).lookup name =
      settle ((entriesOf held).lookup name)
        ((entries.filter fun entry => entry.1 = name).map fun entry => ⟨[], entry.2⟩) := by
  induction entries generalizing held with
  | nil => rw [overlayEntries]; rfl
  | cons entry rest ih =>
      obtain ⟨key, value⟩ := entry
      rw [overlayEntries, ih, entriesOf, lookup_put]
      by_cases same : key = name
      · subst same
        rw [if_pos rfl, List.filter_cons_of_pos (by simp), List.map_cons]
        rfl
      · rw [if_neg (Ne.symm same), List.filter_cons_of_neg (by simpa using same)]

/-- A write to a table is, for one of its members, the writes that concern it. -/
theorem member?_apply (name : String) (held : Option Value) {write : Write}
    (keeps : write.keepsTable = true) :
    member? name (write.apply held) = settle (member? name held) (write.toMember name) := by
  obtain ⟨steps, value⟩ := write
  rcases steps with _ | ⟨first | index, rest⟩
  · obtain ⟨entries, rfl⟩ := Write.exists_table_of_keepsTable keeps
    exact member?_overlayEntries name (held.getD (.table [])) entries
  · have entries : (held.map entriesOf).getD [] = entriesOf (held.getD (.table [])) := by
      cases held <;> rfl
    have found := lookup_put first name
      (assign value rest ((entriesOf (held.getD (.table []))).lookup first))
      (entriesOf (held.getD (.table [])))
    simp only [Write.apply, assign, entries, member?_table, found, Write.toMember]
    by_cases same : name = first
    · subst same
      rw [if_pos rfl, if_pos rfl]
      rfl
    · rw [if_neg same, if_neg (Ne.symm same)]
      rfl
  · cases keeps

/-- The writes that concern a member. -/
def toMember (name : String) (writes : List Write) : List Write :=
  writes.flatMap (Write.toMember name)

theorem member?_settle (name : String) (held : Option Value) {writes : List Write}
    (keep : ∀ write ∈ writes, write.keepsTable = true) :
    member? name (settle held writes) = settle (member? name held) (toMember name writes) := by
  induction writes generalizing held with
  | nil => rfl
  | cons write rest ih =>
      have later := ih (write.apply held) fun other among =>
        keep other (List.mem_cons_of_mem write among)
      rw [toMember, List.flatMap_cons, settle_append, ← member?_apply name held
        (keep write List.mem_cons_self)]
      exact later

/-! ## Tables stay tables -/

/-- Nothing, or a table. -/
def IsTable (value : Option Value) : Prop :=
  ∀ held ∈ value, ∃ entries, held = .table entries

theorem isTable_none : IsTable none := fun _ held => absurd held (by simp)

theorem overlayEntries_table (before entries : Entries) :
    ∃ after, overlayEntries (.table before) entries = .table after := by
  induction entries generalizing before with
  | nil => exact ⟨before, by rw [overlayEntries]⟩
  | cons entry rest ih =>
      obtain ⟨key, value⟩ := entry
      rw [overlayEntries]
      exact ih _

theorem overlayEntries_cons (held : Value) (entry : String × Value) (rest : Entries) :
    ∃ after, overlayEntries held (entry :: rest) = .table after := by
  rw [overlayEntries]
  exact overlayEntries_table _ rest

theorem isTable_table (entries : Entries) : IsTable (some (.table entries)) := by
  intro held same
  exact ⟨entries, (Option.some.inj same).symm⟩

theorem IsTable.apply {held : Option Value} (isTable : IsTable held) {write : Write}
    (keeps : write.keepsTable = true) : IsTable (write.apply held) := by
  obtain ⟨steps, value⟩ := write
  rcases steps with _ | ⟨first | index, rest⟩
  · obtain ⟨entries, rfl⟩ := Write.exists_table_of_keepsTable keeps
    obtain ⟨before, same⟩ : ∃ before, held.getD (.table []) = .table before := by
      cases held with
      | none => exact ⟨[], rfl⟩
      | some value => exact isTable value rfl
    obtain ⟨after, left⟩ := overlayEntries_table before entries
    have made : Write.apply held ⟨[], .table entries⟩ = some (.table after) := by
      rw [Write.apply, assign, overlay, same, left]
    rw [made]
    exact isTable_table after
  · exact isTable_table _
  · cases keeps

theorem IsTable.settle {held : Option Value} (isTable : IsTable held) {writes : List Write}
    (keep : ∀ write ∈ writes, write.keepsTable = true) : IsTable (settle held writes) := by
  induction writes generalizing held with
  | nil => exact isTable
  | cons write rest ih =>
      exact ih (isTable.apply (keep write List.mem_cons_self)) fun other among =>
        keep other (List.mem_cons_of_mem write among)

/-! ## Settings -/

/-- A setting: its section and its name there. -/
structure Setting where
  group : String
  name : String
  deriving DecidableEq

/-- The writes that concern a setting. -/
def Setting.writes (setting : Setting) (writes : List Write) : List Write :=
  toMember setting.name (toMember setting.group writes)

theorem Setting.writes_flatMap {α : Type} (setting : Setting) (write : α → List Write)
    (items : List α) :
    setting.writes (items.flatMap write) =
      items.flatMap fun item => setting.writes (write item) := by
  simp only [Setting.writes, toMember, List.flatMap_assoc]

/-! ## The tree of all layers -/

/-- What a layer writes to the tree. -/
def Layer.writes (layer : Layer) : List Write :=
  layer.map fun entry => ⟨stepsOf entry.1, entry.2⟩

theorem exists_stepsOf (key : String) : ∃ first rest, stepsOf key = .key first :: rest := by
  unfold stepsOf
  cases path : steps? key with
  | none => exact ⟨key, [], rfl⟩
  | some steps =>
      simp only [steps?] at path
      split_ifs at path
      obtain ⟨rest, -, rfl⟩ := Option.map_eq_some_iff.mp path
      exact ⟨_, rest, rfl⟩

/-- What a layer writes leaves the tree a table. -/
theorem keepsTable_of_mem_writes {layer : Layer} {write : Write}
    (among : write ∈ Layer.writes layer) : write.keepsTable = true := by
  obtain ⟨entry, -, rfl⟩ := List.mem_map.mp among
  obtain ⟨first, rest, steps⟩ := exists_stepsOf entry.1
  rw [steps]
  rfl

/-- The tree of all layers is what they write, one after the other, to an empty table. -/
theorem stack_eq (layers : List Layer) :
    stack layers =
      entriesOf ((settle (some (.table [])) (layers.flatMap Layer.writes)).getD (.table [])) := by
  have folded : ∀ (entries : Entries) (tree : Value),
      settle (some tree) (Layer.writes entries) =
        some (entries.foldl
          (fun tree entry => assign entry.2 (stepsOf entry.1) (some tree)) tree) := by
    intro entries
    induction entries with
    | nil => intro tree; rfl
    | cons entry rest ih => intro tree; exact ih _
  have joined : layers.flatMap Layer.writes = Layer.writes layers.flatten := by
    rw [Layer.writes, List.map_flatten, List.flatMap_def]
    rfl
  rw [joined, folded]
  rfl

end HostedCheckout.Settings
