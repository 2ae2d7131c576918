import HostedCheckout.Proofs.Json.Record
import Mathlib.Data.List.Nodup

/-!
# What is accepted as a record

A record is decoded from an object if and only if no field is given twice and every field
accepts what is given for it; other members do not matter.  It is decoded from an array if and
only if the array is not longer than the list of the fields, and the object that has its
elements under the names of the fields is accepted.  Nothing else is a record.
-/

namespace HostedCheckout.Json

/-- Whether no field of a record is given twice. -/
def Members.Single (fields : List Field) (members : Members) : Prop :=
  ∀ field ∈ fields, (members.map Prod.fst).count field.name ≤ 1

/-- Values that agree with the same members are the same. -/
theorem Row.Agrees.unique {members : Members} {fields : List Field} {row other : Row fields}
    (first : Row.Agrees members fields row) (second : Row.Agrees members fields other) :
    row = other := by
  induction fields with
  | nil => rfl
  | cons field rest ih =>
      obtain ⟨value, others⟩ := row
      obtain ⟨held, remaining⟩ := other
      obtain ⟨admits, agrees⟩ := first
      obtain ⟨admitsToo, agreesToo⟩ := second
      rw [ih agrees agreesToo]
      congr 1
      cases given : members.lookup field.name with
      | none =>
          rw [given] at admits admitsToo
          exact Option.some.inj (admits.symm.trans admitsToo)
      | some value =>
          rw [given] at admits admitsToo
          exact Except.ok.inj (admits.symm.trans admitsToo)

theorem lookup_eq_none_of_count {members : Members} {name : String}
    (absent : (members.map Prod.fst).count name = 0) : members.lookup name = none := by
  rw [List.lookup_eq_none_iff]
  intro member among
  have other : name ≠ member.1 := fun same =>
    List.count_eq_zero.mp absent (List.mem_map.mpr ⟨member, among, same.symm⟩)
  simpa using other

theorem count_eq_zero_of_lookup {members : Members} {name : String}
    (absent : members.lookup name = none) : (members.map Prod.fst).count name = 0 := by
  rw [List.count_eq_zero]
  intro among
  obtain ⟨member, held, rfl⟩ := List.mem_map.mp among
  simpa using List.lookup_eq_none_iff.mp absent member held

/-! ## Objects -/

/-- A member is taken in only for a field that has none yet. -/
theorem Row.absent_of_withMember {members : Members} {name : String} {value : Value}
    {fields : List Field} {taken longer : PartialRow fields}
    (agrees : PartialRow.Agrees members fields taken)
    (decoded : Row.withMember name value fields taken = .ok longer) :
    ∀ field ∈ fields, field.name = name → members.lookup name = none := by
  induction fields with
  | nil => simp
  | cons field rest ih =>
      obtain ⟨held, others⟩ := taken
      simp only [Row.withMember] at decoded
      intro other among named
      split at decoded
      · rename_i first
        cases held with
        | some => cases decoded
        | none => simpa [first] using agrees.1
      · rename_i unnamed
        obtain ⟨result, read, -⟩ := bind_eq_ok_iff.mp decoded
        rcases List.mem_cons.mp among with rfl | later
        · exact absurd named unnamed
        · exact ih agrees.2 read other later named

theorem Row.single_ofMembers {fields : List Field} (distinct : Field.Distinct fields)
    {members seen : Members} {taken last : PartialRow fields}
    (agrees : PartialRow.Agrees seen fields taken) (single : Members.Single fields seen)
    (decoded : Row.ofMembers fields members taken = .ok last) :
    Members.Single fields (seen ++ members) := by
  induction members generalizing seen taken with
  | nil => rwa [List.append_nil]
  | cons member rest ih =>
      obtain ⟨name, value⟩ := member
      obtain ⟨longer, first, later⟩ := bind_eq_ok_iff.mp decoded
      rw [List.append_cons]
      refine ih (Row.agrees_withMember distinct agrees first) (fun field among => ?_) later
      rw [List.map_append, List.count_append, List.map_singleton]
      by_cases named : field.name = name
      · have absent := Row.absent_of_withMember agrees first field among named
        rw [named, count_eq_zero_of_lookup absent]
        simp
      · rw [List.count_singleton, if_neg (by simpa using Ne.symm named)]
        exact single field among

/-- A member is taken in if the field that it is for accepts it and has none yet. -/
theorem Row.exists_withMember {seen members : Members} {name : String} {value : Value}
    {fields : List Field} {taken : PartialRow fields} {row : Row fields}
    (agrees : PartialRow.Agrees seen fields taken)
    (accepted : Row.Agrees (seen ++ (name, value) :: members) fields row)
    (absent : ∀ field ∈ fields, field.name = name → seen.lookup name = none) :
    ∃ longer, Row.withMember name value fields taken = .ok longer := by
  induction fields with
  | nil => exact ⟨taken, rfl⟩
  | cons field rest ih =>
      obtain ⟨held, others⟩ := taken
      obtain ⟨here, there⟩ := accepted
      simp only [Row.withMember]
      split
      · rename_i named
        have unseen := absent field List.mem_cons_self named
        have same : (seen.lookup field.name).map field.kind.decode = held.map .ok := agrees.1
        rw [named, unseen, Option.map_none] at same
        obtain rfl := Option.map_eq_none_iff.mp same.symm
        rw [named, List.lookup_append, unseen, Option.none_or, lookup_cons_eq, if_pos rfl] at here
        have read : field.kind.decode value = .ok row.1 := here
        rw [read]
        exact ⟨_, rfl⟩
      · obtain ⟨longer, read⟩ := ih agrees.2 there fun other among =>
          absent other (List.mem_cons_of_mem field among)
        rw [read]
        exact ⟨_, rfl⟩

theorem Row.exists_ofMembers {fields : List Field} (distinct : Field.Distinct fields)
    {members seen : Members} {taken : PartialRow fields} {row : Row fields}
    (agrees : PartialRow.Agrees seen fields taken)
    (accepted : Row.Agrees (seen ++ members) fields row)
    (single : Members.Single fields (seen ++ members)) :
    ∃ last, Row.ofMembers fields members taken = .ok last := by
  induction members generalizing seen taken with
  | nil => exact ⟨taken, rfl⟩
  | cons member rest ih =>
      obtain ⟨name, value⟩ := member
      have absent : ∀ field ∈ fields, field.name = name → seen.lookup name = none := by
        rintro field among rfl
        have once := single field among
        rw [List.map_append, List.count_append, List.map_cons, List.count_cons_self] at once
        exact lookup_eq_none_of_count (by omega)
      obtain ⟨longer, first⟩ := Row.exists_withMember agrees accepted absent
      rw [List.append_cons] at accepted single
      obtain ⟨last, later⟩ := ih (Row.agrees_withMember distinct agrees first) accepted single
      exact ⟨last, bind_eq_ok_iff.mpr ⟨longer, first, later⟩⟩

/-- What agrees with all members is complete. -/
theorem PartialRow.complete_of_agrees {members : Members} {fields : List Field}
    {taken : PartialRow fields} {row : Row fields}
    (agrees : PartialRow.Agrees members fields taken) (accepted : Row.Agrees members fields row) :
    taken.complete = .ok row := by
  induction fields with
  | nil => rfl
  | cons field rest ih =>
      obtain ⟨held, others⟩ := taken
      obtain ⟨value, remaining⟩ := row
      obtain ⟨here, there⟩ := agrees
      obtain ⟨admits, acceptedRest⟩ := accepted
      simp only [PartialRow.complete, ih there acceptedRest]
      cases given : members.lookup field.name with
      | none =>
          rw [given] at admits here
          obtain rfl : held = none := Option.map_eq_none_iff.mp here.symm
          have standIn : field.whenAbsent = some value := admits
          simp only [standIn]
          rfl
      | some found =>
          rw [given] at admits here
          have decoded : field.kind.decode found = .ok value := admits
          rw [Option.map_some, decoded] at here
          cases held with
          | none => cases here
          | some kept =>
              obtain rfl := Except.ok.inj (Option.some.inj here)
              rfl

/-- A record is decoded from an object if and only if no field is given twice, and the values
of the fields are what is given for them. -/
theorem Row.ofValue_object_eq_ok_iff {name : String} {fields : List Field}
    (distinct : Field.Distinct fields) {members : Members} {row : Row fields} :
    Row.ofValue name fields (.object members) = .ok row ↔
      Members.Single fields members ∧ Row.Agrees members fields row := by
  have none : Members.Single fields [] := fun _ _ => Nat.zero_le 1
  constructor
  · intro decoded
    obtain ⟨last, taken, -⟩ := bind_eq_ok_iff.mp decoded
    exact ⟨Row.single_ofMembers distinct (PartialRow.agrees_empty fields) none taken,
      Row.agrees_ofValue distinct decoded⟩
  · rintro ⟨single, accepted⟩
    obtain ⟨last, taken⟩ :=
      Row.exists_ofMembers distinct (PartialRow.agrees_empty fields) accepted single
    have agrees := Row.agrees_ofMembers distinct (PartialRow.agrees_empty fields) taken
    exact bind_eq_ok_iff.mpr ⟨last, taken, PartialRow.complete_of_agrees agrees accepted⟩

/-! ## Arrays -/

/-- The elements that are left over are those after the last field. -/
theorem Row.length_ofElements {name : String} {size index : Nat} {fields : List Field}
    {items left : List Value} {row : Row fields}
    (decoded : Row.ofElements name size index fields items = .ok (row, left)) :
    items.length ≤ fields.length + left.length := by
  induction fields generalizing index items with
  | nil =>
      cases decoded
      simp
  | cons field rest ih =>
      simp only [Row.ofElements] at decoded
      split at decoded
      · obtain ⟨value, -, decoded⟩ := bind_eq_ok_iff.mp decoded
        obtain ⟨⟨others, remainder⟩, later, same⟩ := bind_eq_ok_iff.mp decoded
        cases same
        have shorter := Nat.succ_le_succ (ih later)
        rwa [← Nat.succ_add] at shorter
      · exact Nat.zero_le _
      · cases decoded

theorem Row.ofElements_of_agrees {name : String} {size index : Nat} {fields : List Field}
    (distinct : Field.Distinct fields) {items : List Value} {row : Row fields}
    (short : items.length ≤ fields.length)
    (accepted : Row.Agrees ((fields.map Field.name).zip items) fields row) :
    Row.ofElements name size index fields items = .ok (row, []) := by
  induction fields generalizing index items with
  | nil =>
      obtain rfl : items = [] := List.eq_nil_of_length_eq_zero (Nat.le_zero.mp short)
      rfl
  | cons field rest ih =>
      obtain ⟨unlike, distinctRest⟩ := Field.distinct_cons.mp distinct
      obtain ⟨value, others⟩ := row
      obtain ⟨admits, acceptedRest⟩ := accepted
      cases items with
      | nil =>
          rw [List.zip_nil_right] at acceptedRest
          have none : ([] : List Value).length ≤ rest.length := Nat.zero_le _
          have later : Row.ofElements name size (index + 1) rest [] = .ok (others, []) :=
            ih distinctRest none (by rwa [List.zip_nil_right])
          have standIn : field.whenAbsent = some value := admits
          simp only [Row.ofElements, standIn, later]
          rfl
      | cons item more =>
          rw [List.map_cons, List.zip_cons_cons] at admits acceptedRest
          rw [lookup_cons_eq, if_pos rfl] at admits
          have later : Row.ofElements name size (index + 1) rest more = .ok (others, []) :=
            ih distinctRest (Nat.le_of_succ_le_succ short)
              (acceptedRest.congr fun other among => by
                rw [lookup_cons_eq, if_neg (unlike other among)])
          have decoded : field.kind.decode item = .ok value := admits
          simp only [Row.ofElements, decoded, later]
          rfl

/-- A record is decoded from an array whose elements are all used up by the fields. -/
theorem Row.ofValue_array_eq_ok_iff_ofElements {name : String} {fields : List Field}
    {items : List Value} {row : Row fields} :
    Row.ofValue name fields (.array items) = .ok row ↔
      Row.ofElements name fields.length 0 fields items = .ok (row, []) := by
  constructor
  · intro decoded
    obtain ⟨⟨others, left⟩, elements, whole⟩ := bind_eq_ok_iff.mp decoded
    simp only at whole
    split at whole
    · rename_i empty
      cases whole
      rwa [List.isEmpty_iff.mp empty] at elements
    · cases whole
  · intro elements
    exact bind_eq_ok_iff.mpr ⟨_, elements, rfl⟩

/-- A record is decoded from an array if and only if it has no more elements than fields, and
the values of the fields are what the elements give for them. -/
theorem Row.ofValue_array_eq_ok_iff {name : String} {fields : List Field}
    (distinct : Field.Distinct fields) {items : List Value} {row : Row fields} :
    Row.ofValue name fields (.array items) = .ok row ↔
      items.length ≤ fields.length ∧
        Row.Agrees ((fields.map Field.name).zip items) fields row := by
  rw [Row.ofValue_array_eq_ok_iff_ofElements]
  constructor
  · intro elements
    exact ⟨Row.length_ofElements elements, Row.agrees_ofElements distinct elements⟩
  · rintro ⟨short, accepted⟩
    exact Row.ofElements_of_agrees distinct short accepted

theorem Members.single_zip {fields : List Field} (distinct : Field.Distinct fields)
    (items : List Value) : Members.Single fields ((fields.map Field.name).zip items) := by
  intro field _
  have front : (((fields.map Field.name).zip items).map Prod.fst).Sublist
      (fields.map Field.name) := by
    generalize fields.map Field.name = names
    induction names generalizing items with
    | nil => simp
    | cons name rest ih =>
        cases items with
        | nil => simp
        | cons item more => simpa using ih more
  exact List.nodup_iff_count_le_one.mp (distinct.sublist front) field.name

/-! ## Records -/

section Records

variable {α : Type} {name : String} {fields : List Field} {build : Row fields → α} {result : α}

theorem Kind.ofValue_eq_ok_iff {kind : Kind} {value : Value} {decoded : kind.Carrier} :
    kind.ofValue value = .ok decoded ↔ kind.decode value = .ok decoded := by
  unfold Kind.ofValue
  cases kind.decode value <;> simp

theorem Kind.ofValue_record_eq_ok_iff {value : Value} :
    (Kind.record name fields build).ofValue value = .ok result ↔
      ∃ row, Row.ofValue name fields value = .ok row ∧ build row = result := by
  simp only [Kind.ofValue]
  cases Row.ofValue name fields value with
  | error => simp [Except.map]
  | ok row => simp [Except.map]

theorem Kind.ofValue_object_eq_ok_iff (distinct : Field.Distinct fields) {members : Members} :
    (Kind.record name fields build).ofValue (.object members) = .ok result ↔
      Members.Single fields members ∧
        ∃ row, Row.Agrees members fields row ∧ build row = result := by
  rw [Kind.ofValue_record_eq_ok_iff]
  simp only [Row.ofValue_object_eq_ok_iff distinct, and_assoc, exists_and_left]

/-- An array is decoded as a record if and only if it is not too long, and the object that has
its elements under the names of the fields is. -/
theorem Kind.ofValue_array_eq_ok_iff (distinct : Field.Distinct fields) {items : List Value} :
    (Kind.record name fields build).ofValue (.array items) = .ok result ↔
      items.length ≤ fields.length ∧
        (Kind.record name fields build).ofValue (.object ((fields.map Field.name).zip items)) =
          .ok result := by
  have single := Members.single_zip distinct items
  rw [Kind.ofValue_record_eq_ok_iff, Kind.ofValue_object_eq_ok_iff distinct]
  simp only [Row.ofValue_array_eq_ok_iff distinct, single, true_and, and_assoc, exists_and_left]

/-- What is neither an array nor an object is no record. -/
theorem Kind.ofValue_scalar_ne_ok {value : Value} (array : ∀ items, value ≠ .array items)
    (object : ∀ members, value ≠ .object members) :
    (Kind.record name fields build).ofValue value ≠ .ok result := by
  intro decoded
  obtain ⟨row, accepted, -⟩ := Kind.ofValue_record_eq_ok_iff.mp decoded
  cases value with
  | array items => exact array items rfl
  | object members => exact object members rfl
  | null | boolean | number | string => cases accepted

/-- What is not an object is decoded as a record if and only if it is an array that is. -/
theorem Kind.ofValue_nameless_eq_ok_iff {value : Value}
    (nameless : ∀ members, value ≠ .object members) :
    (Kind.record name fields build).ofValue value = .ok result ↔
      ∃ items, value = .array items ∧
        (Kind.record name fields build).ofValue (.array items) = .ok result := by
  constructor
  · intro decoded
    by_contra scalar
    exact Kind.ofValue_scalar_ne_ok
      (fun items same => scalar ⟨items, same, same ▸ decoded⟩) nameless decoded
  · rintro ⟨items, rfl, decoded⟩
    exact decoded

end Records

end HostedCheckout.Json
