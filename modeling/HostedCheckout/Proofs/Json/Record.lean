import HostedCheckout.Json.Record
import HostedCheckout.Proofs.Json.Members

/-!
# Decoded records

A record that has been decoded agrees with what it was decoded from: a field has
the value of the member with its name, or its stand-in if there is no such
member.  An array is decoded as the object that has its elements under the names
of the fields, in order.  The fields of a record have different names.
-/

namespace HostedCheckout

theorem bind_eq_ok_iff {ε α β : Type} {first : Except ε α} {next : α → Except ε β} {result : β} :
    first >>= next = .ok result ↔ ∃ value, first = .ok value ∧ next value = .ok result := by
  cases first <;> simp [bind, Except.bind]

namespace Json

/-- The members that a value gives for the fields of a record. -/
def Value.membersFor (fields : List Field) : Value → Members
  | .array items => (fields.map Field.name).zip items
  | .object members => members
  | _ => []

/-- What a value gives for a field of a record. -/
def Value.given? (fields : List Field) (name : String) (value : Value) : Option Value :=
  (value.membersFor fields).lookup name

/-- Whether a field has a value when a member is given for it, or none. -/
def Field.Admits (field : Field) (value : field.kind.Carrier) : Option Value → Prop
  | some given => field.kind.decode given = .ok value
  | none => field.whenAbsent = some value

/-- Whether all fields have the values that some members give for them. -/
def Row.Agrees (members : Members) : (fields : List Field) → Row fields → Prop
  | [], _ => True
  | field :: rest, (value, others) =>
      field.Admits value (members.lookup field.name) ∧ Row.Agrees members rest others

/-- Whether just the fields that some members name have values, and those that
the members give for them. -/
def PartialRow.Agrees (members : Members) : (fields : List Field) → PartialRow fields → Prop
  | [], _ => True
  | field :: rest, (held, others) =>
      (members.lookup field.name).map field.kind.decode = held.map .ok ∧
        PartialRow.Agrees members rest others

/-- Whether no two fields have the same name. -/
def Field.Distinct (fields : List Field) : Prop :=
  (fields.map Field.name).Nodup

instance (fields : List Field) : Decidable (Field.Distinct fields) :=
  inferInstanceAs (Decidable (fields.map Field.name).Nodup)

theorem Field.distinct_cons {field : Field} {rest : List Field} :
    Field.Distinct (field :: rest) ↔
      (∀ other ∈ rest, other.name ≠ field.name) ∧ Field.Distinct rest := by
  simp [Field.Distinct]

/-- Only the members that the fields name matter. -/
theorem Row.Agrees.congr {members others : Members} {fields : List Field} {row : Row fields}
    (agrees : Row.Agrees members fields row)
    (same : ∀ field ∈ fields, others.lookup field.name = members.lookup field.name) :
    Row.Agrees others fields row := by
  induction fields with
  | nil => trivial
  | cons field rest ih =>
      refine ⟨?_, ih agrees.2 fun other among => same other (List.mem_cons_of_mem field among)⟩
      rw [same field List.mem_cons_self]
      exact agrees.1

theorem PartialRow.Agrees.congr {members others : Members} {fields : List Field}
    {taken : PartialRow fields} (agrees : PartialRow.Agrees members fields taken)
    (same : ∀ field ∈ fields, others.lookup field.name = members.lookup field.name) :
    PartialRow.Agrees others fields taken := by
  induction fields with
  | nil => trivial
  | cons field rest ih =>
      refine ⟨?_, ih agrees.2 fun other among => same other (List.mem_cons_of_mem field among)⟩
      rw [same field List.mem_cons_self]
      exact agrees.1

/-! ## Objects -/

theorem PartialRow.agrees_empty (fields : List Field) :
    PartialRow.Agrees [] fields (PartialRow.empty fields) := by
  induction fields with
  | nil => trivial
  | cons field rest ih => exact ⟨rfl, ih⟩

/-- One more member is taken in. -/
theorem Row.agrees_withMember {members : Members} {name : String} {value : Value}
    {fields : List Field} (distinct : Field.Distinct fields) {taken longer : PartialRow fields}
    (agrees : PartialRow.Agrees members fields taken)
    (decoded : Row.withMember name value fields taken = .ok longer) :
    PartialRow.Agrees (members ++ [(name, value)]) fields longer := by
  induction fields with
  | nil => trivial
  | cons field rest ih =>
      obtain ⟨held, others⟩ := taken
      obtain ⟨unlike, distinctRest⟩ := Field.distinct_cons.mp distinct
      simp only [Row.withMember] at decoded
      split at decoded
      · rename_i named
        cases held with
        | some => cases decoded
        | none =>
            obtain ⟨result, read, same⟩ := bind_eq_ok_iff.mp decoded
            cases same
            have absent : members.lookup field.name = none := by
              simpa using agrees.1
            refine ⟨?_, agrees.2.congr fun other among => ?_⟩
            · rw [lookup_append_singleton, absent, if_pos named, Option.none_or, Option.map_some,
                read, Option.map_some]
            · rw [lookup_append_singleton, if_neg (named ▸ unlike other among), Option.or_none]
      · rename_i unnamed
        obtain ⟨result, read, same⟩ := bind_eq_ok_iff.mp decoded
        cases same
        refine ⟨?_, ih distinctRest agrees.2 read⟩
        rw [lookup_append_singleton, if_neg unnamed, Option.or_none]
        exact agrees.1

/-- All members are taken in, one after another. -/
theorem Row.agrees_ofMembers {fields : List Field} (distinct : Field.Distinct fields)
    {members seen : Members} {taken last : PartialRow fields}
    (agrees : PartialRow.Agrees seen fields taken)
    (decoded : Row.ofMembers fields members taken = .ok last) :
    PartialRow.Agrees (seen ++ members) fields last := by
  induction members generalizing seen taken with
  | nil =>
      obtain rfl : taken = last := Except.ok.inj decoded
      rw [List.append_nil]
      exact agrees
  | cons member rest ih =>
      obtain ⟨name, value⟩ := member
      obtain ⟨longer, first, later⟩ := bind_eq_ok_iff.mp decoded
      have agreesOnce := Row.agrees_withMember distinct agrees first
      rw [List.append_cons]
      exact ih agreesOnce later

/-- Fields without a member get their stand-ins. -/
theorem PartialRow.Agrees.complete {members : Members} {fields : List Field}
    {taken : PartialRow fields} (agrees : PartialRow.Agrees members fields taken)
    {row : Row fields} (completed : taken.complete = .ok row) :
    Row.Agrees members fields row := by
  induction fields with
  | nil => trivial
  | cons field rest ih =>
      obtain ⟨held, others⟩ := taken
      obtain ⟨here, there⟩ := agrees
      simp only [PartialRow.complete] at completed
      split at completed
      · obtain ⟨result, rested, same⟩ := bind_eq_ok_iff.mp completed
        cases same
        refine ⟨?_, ih there rested⟩
        obtain ⟨given, found, decoded⟩ := Option.map_eq_some_iff.mp here
        rw [found]
        exact decoded
      · rename_i standIn
        obtain ⟨result, rested, same⟩ := bind_eq_ok_iff.mp completed
        cases same
        refine ⟨?_, ih there rested⟩
        rw [Option.map_eq_none_iff.mp here]
        exact standIn
      · cases completed

/-! ## Arrays -/

/-- Elements are taken as the members that they stand for. -/
theorem Row.agrees_ofElements {name : String} {size : Nat} {fields : List Field}
    (distinct : Field.Distinct fields) {index : Nat} {items left : List Value} {row : Row fields}
    (decoded : Row.ofElements name size index fields items = .ok (row, left)) :
    Row.Agrees ((fields.map Field.name).zip items) fields row := by
  induction fields generalizing index items left with
  | nil => trivial
  | cons field rest ih =>
      obtain ⟨unlike, distinctRest⟩ := Field.distinct_cons.mp distinct
      simp only [Row.ofElements] at decoded
      split at decoded
      · rename_i item more _
        obtain ⟨value, read, decoded⟩ := bind_eq_ok_iff.mp decoded
        obtain ⟨⟨others, remainder⟩, later, same⟩ := bind_eq_ok_iff.mp decoded
        cases same
        rw [List.map_cons, List.zip_cons_cons]
        refine ⟨?_, (ih distinctRest later).congr fun other among => ?_⟩
        · rw [lookup_cons_eq, if_pos rfl]
          exact read
        · rw [lookup_cons_eq, if_neg (unlike other among)]
      · rename_i value standIn
        obtain ⟨⟨others, remainder⟩, later, same⟩ := bind_eq_ok_iff.mp decoded
        cases same
        have agreesRest := ih distinctRest later
        rw [List.zip_nil_right] at agreesRest ⊢
        exact ⟨standIn, agreesRest⟩
      · cases decoded

/-- A decoded record agrees with the value it was decoded from. -/
theorem Row.agrees_ofValue {name : String} {fields : List Field} (distinct : Field.Distinct fields)
    {value : Value} {row : Row fields} (decoded : Row.ofValue name fields value = .ok row) :
    Row.Agrees (value.membersFor fields) fields row := by
  cases value with
  | array items =>
      obtain ⟨⟨others, left⟩, elements, whole⟩ := bind_eq_ok_iff.mp decoded
      simp only at whole
      split at whole
      · cases whole
        exact Row.agrees_ofElements distinct elements
      · cases whole
  | object members =>
      obtain ⟨last, taken, completed⟩ := bind_eq_ok_iff.mp decoded
      have agrees := Row.agrees_ofMembers distinct (PartialRow.agrees_empty fields) taken
      exact agrees.complete completed
  | null | boolean | number | string => cases decoded

/-- A value that is decoded as a record is built from a row that agrees with it. -/
theorem Kind.agrees_of_record {α : Type} {name : String} {fields : List Field}
    {build : Row fields → α} (distinct : Field.Distinct fields) {value : Value} {result : α}
    (decoded : (Kind.record name fields build).ofValue value = .ok result) :
    ∃ row, Row.Agrees (value.membersFor fields) fields row ∧ build row = result := by
  simp only [Kind.ofValue] at decoded
  cases rowEq : Row.ofValue name fields value with
  | error => simp [rowEq, Except.map] at decoded
  | ok row =>
      refine ⟨row, Row.agrees_ofValue distinct rowEq, ?_⟩
      simpa [rowEq, Except.map] using decoded

/-! ## Texts -/

theorem Kind.decode_text_eq_ok_iff {value : Value} {text : String} :
    Kind.text.decode value = .ok text ↔ value = .string text := by
  cases value <;> simp

/-- A text that may not be absent is given. -/
theorem Field.admits_text_iff {name text : String} {given : Option Value} :
    Field.Admits ⟨name, .text, none⟩ text given ↔ given = some (.string text) := by
  cases given with
  | none => simp [Field.Admits]
  | some value => exact Kind.decode_text_eq_ok_iff.trans Option.some_inj.symm

end Json

end HostedCheckout
