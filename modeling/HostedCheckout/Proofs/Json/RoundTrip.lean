import HostedCheckout.Proofs.Json.Members
import HostedCheckout.Proofs.Json.Tokens

/-!
# Reading values that were written

A value that is not nested too deep, and whose integers have 64 bits, is written as a text
that is read again.  Strings and the shape of the value come out as they went in; doubles
are read as their texts are, and the members of an object by key.
-/

namespace HostedCheckout.Json

/-! ## What is read again -/

mutual

/-- Whether a value has at most so many levels of nesting, and only integers of 64 bits. -/
def Value.fits : Value → Nat → Bool
  | .number value, _ => value.fits
  | .array items, depth => 0 < depth && itemsFit items (depth - 1)
  | .object members, depth => 0 < depth && membersFit members (depth - 1)
  | _, _ => true

/-- Whether all elements of an array do. -/
def itemsFit : List Value → Nat → Bool
  | [], _ => true
  | item :: rest, depth => item.fits depth && itemsFit rest depth

/-- Whether all members of an object do. -/
def membersFit : List (String × Value) → Nat → Bool
  | [], _ => true
  | (_, value) :: rest, depth => value.fits depth && membersFit rest depth

end

mutual

/-- What the text of a value is read as. -/
def Value.reread : Value → Value
  | .number value => value.reread
  | .array items => .array (rereadItems items)
  | .object members => .object (rereadMembers members [])
  | value => value

/-- What the texts of elements are read as. -/
def rereadItems : List Value → List Value
  | [] => []
  | item :: rest => item.reread :: rereadItems rest

/-- What the texts of members are read as, after other members. -/
def rereadMembers : List (String × Value) → Members → Members
  | [], taken => taken
  | (key, value) :: rest, taken => rereadMembers rest (taken.insert key value.reread)

end

/-! ## Texts of parts -/

/-- The elements that follow another one. -/
def moreItemsText : List Value → List Char
  | [] => []
  | item :: rest => ',' :: itemsText (item :: rest)

/-- The members that follow another one. -/
def moreMembersText : List (String × Value) → List Char
  | [] => []
  | member :: rest => ',' :: membersText (member :: rest)

theorem itemsText_cons (item : Value) (rest : List Value) :
    itemsText (item :: rest) = item.text ++ moreItemsText rest := by
  cases rest with
  | nil => rw [itemsText, moreItemsText, List.append_nil]
  | cons next more => rw [itemsText, moreItemsText]

theorem membersText_cons (key : String) (value : Value) (rest : List (String × Value)) :
    membersText ((key, value) :: rest) =
      stringText key ++ ':' :: (value.text ++ moreMembersText rest) := by
  cases rest with
  | nil => rw [membersText, moreMembersText, List.append_nil]
  | cons next more => rw [membersText, moreMembersText, List.append_assoc, List.cons_append]

theorem encode_comma (rest : List Char) : Utf8.encode (',' :: rest) = 0x2C :: Utf8.encode rest := by
  rw [Utf8.encode_cons]
  rfl

theorem encode_colon (rest : List Char) : Utf8.encode (':' :: rest) = 0x3A :: Utf8.encode rest := by
  rw [Utf8.encode_cons]
  rfl

theorem ends_comma (rest : Bytes) : Ends (0x2C :: rest) := fun _ next =>
  .inl (Option.some.inj next).symm

theorem ends_moreItemsText (items : List Value) (rest : Bytes) :
    Ends (Utf8.encode (moreItemsText items) ++ 0x5D :: rest) := by
  cases items with
  | nil => exact fun _ next => .inr (.inl (Option.some.inj next).symm)
  | cons item more =>
      rw [moreItemsText, encode_comma]
      exact ends_comma _

theorem ends_moreMembersText (members : List (String × Value)) (rest : Bytes) :
    Ends (Utf8.encode (moreMembersText members) ++ 0x7D :: rest) := by
  cases members with
  | nil => exact fun _ next => .inr (.inr (Option.some.inj next).symm)
  | cons member more =>
      rw [moreMembersText, encode_comma]
      exact ends_comma _

theorem length_le_moreItemsText (items : List Value) :
    items.length ≤ (Utf8.encode (moreItemsText items)).length := by
  induction items with
  | nil => exact Nat.le_refl 0
  | cons item rest ih =>
      rw [moreItemsText, encode_comma, itemsText_cons, Utf8.encode_append]
      simp only [List.length_cons, List.length_append]
      omega

theorem length_le_moreMembersText (members : List (String × Value)) :
    members.length ≤ (Utf8.encode (moreMembersText members)).length := by
  induction members with
  | nil => exact Nat.le_refl 0
  | cons member rest ih =>
      rw [moreMembersText, encode_comma, membersText_cons, Utf8.encode_append, encode_colon,
        Utf8.encode_append]
      simp only [List.length_cons, List.length_append]
      omega

theorem ends_nil : Ends [] := fun _ next => absurd next (Option.not_mem_none _)

/-- A text that is read as a number begins with an octet that is neither a blank nor a
closing bracket. -/
theorem exists_head_of_number {bytes rest : Bytes} {number : Number}
    (taken : Scan.number (bytes ++ []) = (.ok number, rest)) :
    ∃ octet more, bytes = octet :: more ∧ Scan.isBlank octet = false ∧ octet ≠ 0x5D := by
  rw [List.append_nil] at taken
  obtain ⟨octet, more, rfl, begins⟩ := Scan.beginsNumber_of_number taken
  refine ⟨octet, more, rfl, isBlank_of_beginsNumber begins, ?_⟩
  rintro rfl
  exact absurd begins (by decide)

/-- So does every value. -/
theorem exists_head_text (value : Value) {depth : Nat} (fits : value.fits depth = true) :
    ∃ octet more, Utf8.encode value.text = octet :: more ∧ Scan.isBlank octet = false ∧
      octet ≠ 0x5D := by
  cases value with
  | null =>
      rw [Value.text]
      exact ⟨_, _, rfl, by decide, by decide⟩
  | boolean value =>
      cases value <;> rw [Value.text]
      · exact ⟨_, _, rfl, by decide, by decide⟩
      · exact ⟨_, _, rfl, by decide, by decide⟩
  | number number =>
      rw [Value.text]
      cases number with
      | integer value =>
          rw [Value.fits] at fits
          exact exists_head_of_number (Scan.number_of_integer fits ends_nil)
      | float value =>
          rw [Number.text]
          split
          · rename_i finite
            exact exists_head_of_number (Scan.number_of_isFinite finite ends_nil)
          · exact ⟨_, _, rfl, by decide, by decide⟩
  | string text =>
      rw [Value.text, Scan.encode_stringText]
      exact ⟨_, _, rfl, by decide, by decide⟩
  | array items =>
      rw [Value.text, List.cons_append, Utf8.encode_cons]
      exact ⟨_, _, rfl, by decide, by decide⟩
  | object members =>
      rw [Value.text, List.cons_append, Utf8.encode_cons]
      exact ⟨_, _, rfl, by decide, by decide⟩

/-! ## Values -/

/-- How values are read at some depth. -/
theorem exists_valueOf (depth : Nat) : ∃ part, Scan.value depth = Scan.valueOf part := by
  cases depth with
  | zero => exact ⟨_, rfl⟩
  | succ depth => exact ⟨_, rfl⟩

open Scan in
/-- An array is read once its elements are. -/
theorem value_array {depth : Nat} {items read : List Value}
    (taken : ∀ tail, elements (value depth)
      ((Utf8.encode (itemsText items) ++ 0x5D :: tail).length + 1) true []
        (Utf8.encode (itemsText items) ++ 0x5D :: tail) = (.ok read, 0x5D :: tail))
    (rest : Bytes) :
    value (depth + 1) (Utf8.encode (Value.array items).text ++ rest) =
      (.ok (.array read), rest) := by
  have text : Utf8.encode (Value.array items).text ++ rest =
      0x5B :: (Utf8.encode (itemsText items) ++ 0x5D :: rest) := by
    rw [Value.text, List.cons_append, Utf8.encode_cons, Utf8.encode_append, List.append_assoc,
      List.append_assoc]
    rfl
  rw [text, value]
  unfold valueOf
  rw [peekToken?_bind_cons (by decide)]
  change (advance >>= fun _ => _) _ = _
  rw [advance_bind_cons, get_bind, bind_of_ok (taken rest), bind_of_ok (closeArray_cons rest)]
  rfl

open Scan in
/-- An object is read once its members are. -/
theorem value_object {depth : Nat} {members : List (String × Value)} {read : Members}
    (taken : ∀ tail, Scan.members (value depth)
      ((Utf8.encode (membersText members) ++ 0x7D :: tail).length + 1) true []
        (Utf8.encode (membersText members) ++ 0x7D :: tail) = (.ok read, 0x7D :: tail))
    (rest : Bytes) :
    value (depth + 1) (Utf8.encode (Value.object members).text ++ rest) =
      (.ok (.object read), rest) := by
  have text : Utf8.encode (Value.object members).text ++ rest =
      0x7B :: (Utf8.encode (membersText members) ++ 0x7D :: rest) := by
    rw [Value.text, List.cons_append, Utf8.encode_cons, Utf8.encode_append, List.append_assoc,
      List.append_assoc]
    rfl
  rw [text, value]
  unfold valueOf
  rw [peekToken?_bind_cons (by decide)]
  change (advance >>= fun _ => _) _ = _
  rw [advance_bind_cons, get_bind, bind_of_ok (taken rest), bind_of_ok (closeObject_cons rest)]
  rfl

open Scan in
/-- One element is taken, and what follows it is taken after it. -/
theorem elements_step {item : Scan Value} {first : Bool} {bytes after rest tail : Bytes}
    {value : Value} {taken read : List Value} {remaining : Nat}
    (more : hasElement first bytes = (.ok true, after))
    (here : item after = (.ok value, rest))
    (later : elements item remaining false (value :: taken) rest = (.ok read, tail)) :
    elements item (remaining + 1) first taken bytes = (.ok read, tail) := by
  rw [elements, bind_of_ok more]
  simp only [if_true]
  rw [bind_of_ok here, later]

open Scan in
theorem elements_close (item : Scan Value) (remaining : Nat) (first : Bool) (taken : List Value)
    (tail : Bytes) :
    elements item remaining first taken (0x5D :: tail) = (.ok taken.reverse, 0x5D :: tail) := by
  cases remaining with
  | zero => rfl
  | succ remaining =>
      rw [elements, bind_of_ok (hasElement_close first tail)]
      rfl

open Scan in
/-- One member is taken, and what follows it is taken after it. -/
theorem members_step {item : Scan Value} {first : Bool} {bytes rest tail : Bytes}
    {name : String} {text : List Char} {value : Value} {taken read : Members} {remaining : Nat}
    (more : hasMember first bytes =
      (.ok true, Utf8.encode (stringText name) ++ 0x3A :: (Utf8.encode text ++ rest)))
    (here : item (Utf8.encode text ++ rest) = (.ok value, rest))
    (later : Scan.members item remaining false (taken.insert name value) rest = (.ok read, tail)) :
    Scan.members item (remaining + 1) first taken bytes = (.ok read, tail) := by
  rw [Scan.members, bind_of_ok more]
  simp only [if_true]
  rw [bind_of_ok (key_stringText name _), bind_of_ok (colon_cons _), bind_of_ok here, later]

open Scan in
theorem members_close (item : Scan Value) (remaining : Nat) (first : Bool) (taken : Members)
    (tail : Bytes) :
    Scan.members item remaining first taken (0x7D :: tail) = (.ok taken, 0x7D :: tail) := by
  cases remaining with
  | zero => rfl
  | succ remaining =>
      rw [Scan.members, bind_of_ok (hasMember_close first tail)]
      rfl

mutual

/-- The text of a value is read as the value that is read again, whatever ends it. -/
theorem value_text : ∀ (value : Value) (depth : Nat), value.fits depth = true →
    ∀ rest, Ends rest →
      Scan.value depth (Utf8.encode value.text ++ rest) = (.ok value.reread, rest)
  | .null, depth, _, rest, _ => by
      obtain ⟨part, same⟩ := exists_valueOf depth
      rw [same, Value.text]
      exact Scan.valueOf_null rest
  | .boolean true, depth, _, rest, _ => by
      obtain ⟨part, same⟩ := exists_valueOf depth
      rw [same, Value.text]
      exact Scan.valueOf_true rest
  | .boolean false, depth, _, rest, _ => by
      obtain ⟨part, same⟩ := exists_valueOf depth
      rw [same, Value.text]
      exact Scan.valueOf_false rest
  | .number number, depth, fits, rest, ends => by
      obtain ⟨part, same⟩ := exists_valueOf depth
      rw [Value.fits] at fits
      rw [same, Value.text, Value.reread]
      exact Scan.valueOf_numberText fits ends
  | .string text, depth, _, rest, _ => by
      obtain ⟨part, same⟩ := exists_valueOf depth
      rw [same, Value.text]
      exact Scan.valueOf_string text rest
  | .array items, depth, fits, rest, _ => by
      rw [Value.fits, Bool.and_eq_true, decide_eq_true_eq] at fits
      obtain ⟨inner, rfl⟩ : ∃ inner, depth = inner + 1 := ⟨depth - 1, by omega⟩
      rw [Value.reread]
      exact value_array (items_text items inner fits.2) rest
  | .object members, depth, fits, rest, _ => by
      rw [Value.fits, Bool.and_eq_true, decide_eq_true_eq] at fits
      obtain ⟨inner, rfl⟩ : ∃ inner, depth = inner + 1 := ⟨depth - 1, by omega⟩
      rw [Value.reread]
      exact value_object (members_text members inner fits.2) rest

theorem items_text : ∀ (items : List Value) (depth : Nat), itemsFit items depth = true →
    ∀ tail, Scan.elements (Scan.value depth)
      ((Utf8.encode (itemsText items) ++ 0x5D :: tail).length + 1) true []
        (Utf8.encode (itemsText items) ++ 0x5D :: tail) = (.ok (rereadItems items), 0x5D :: tail)
  | [], depth, _, tail => by
      rw [itemsText, rereadItems]
      exact elements_close _ _ true [] tail
  | item :: rest, depth, fits, tail => by
      rw [itemsFit, Bool.and_eq_true] at fits
      obtain ⟨octet, more, head, solid, unclosed⟩ := exists_head_text item fits.1
      have enough := length_le_moreItemsText rest
      rw [itemsText_cons, Utf8.encode_append, List.append_assoc, rereadItems]
      refine elements_step ?_ (value_text item depth fits.1 _ (ends_moreItemsText rest tail))
        (moreItems_text rest depth fits.2 _ ?_ [item.reread] tail)
      · rw [head, List.cons_append]
        exact Scan.hasElement_first solid unclosed _
      · simp only [List.length_append]
        omega

theorem moreItems_text : ∀ (items : List Value) (depth : Nat), itemsFit items depth = true →
    ∀ remaining, items.length ≤ remaining → ∀ taken tail,
      Scan.elements (Scan.value depth) remaining false taken
        (Utf8.encode (moreItemsText items) ++ 0x5D :: tail) =
          (.ok (taken.reverse ++ rereadItems items), 0x5D :: tail)
  | [], depth, _, remaining, _, taken, tail => by
      rw [rereadItems, List.append_nil]
      exact elements_close _ remaining false taken tail
  | item :: rest, depth, fits, remaining, enough, taken, tail => by
      rw [itemsFit, Bool.and_eq_true] at fits
      rw [List.length_cons] at enough
      obtain ⟨fewer, rfl⟩ : ∃ fewer, remaining = fewer + 1 := ⟨remaining - 1, by omega⟩
      obtain ⟨octet, more, head, solid, unclosed⟩ := exists_head_text item fits.1
      have later := moreItems_text rest depth fits.2 fewer (by omega) (item.reread :: taken) tail
      rw [List.reverse_cons, List.append_assoc, List.singleton_append] at later
      rw [moreItemsText, encode_comma, itemsText_cons, Utf8.encode_append, List.cons_append,
        List.append_assoc, rereadItems]
      refine elements_step ?_ (value_text item depth fits.1 _ (ends_moreItemsText rest tail)) later
      rw [head, List.cons_append]
      exact Scan.hasElement_comma solid unclosed _

theorem members_text : ∀ (members : List (String × Value)) (depth : Nat),
    membersFit members depth = true →
    ∀ tail, Scan.members (Scan.value depth)
      ((Utf8.encode (membersText members) ++ 0x7D :: tail).length + 1) true []
        (Utf8.encode (membersText members) ++ 0x7D :: tail) =
          (.ok (rereadMembers members []), 0x7D :: tail)
  | [], depth, _, tail => by
      rw [membersText, rereadMembers]
      exact members_close _ _ true [] tail
  | (key, value) :: rest, depth, fits, tail => by
      rw [membersFit, Bool.and_eq_true] at fits
      have enough := length_le_moreMembersText rest
      rw [membersText_cons, Utf8.encode_append, encode_colon, Utf8.encode_append,
        List.append_assoc, List.cons_append, List.append_assoc, rereadMembers]
      refine members_step ?_ (value_text value depth fits.1 _ (ends_moreMembersText rest tail))
        (moreMembers_text rest depth fits.2 _ ?_ _ tail)
      · rw [Scan.encode_stringText, List.cons_append]
        exact Scan.hasMember_first _
      · simp only [List.length_append, List.length_cons]
        omega

theorem moreMembers_text : ∀ (members : List (String × Value)) (depth : Nat),
    membersFit members depth = true → ∀ remaining, members.length ≤ remaining → ∀ taken tail,
      Scan.members (Scan.value depth) remaining false taken
        (Utf8.encode (moreMembersText members) ++ 0x7D :: tail) =
          (.ok (rereadMembers members taken), 0x7D :: tail)
  | [], depth, _, remaining, _, taken, tail => by
      rw [rereadMembers]
      exact members_close _ remaining false taken tail
  | (key, value) :: rest, depth, fits, remaining, enough, taken, tail => by
      rw [membersFit, Bool.and_eq_true] at fits
      rw [List.length_cons] at enough
      obtain ⟨fewer, rfl⟩ : ∃ fewer, remaining = fewer + 1 := ⟨remaining - 1, by omega⟩
      have here := value_text value depth fits.1 _ (ends_moreMembersText rest tail)
      have later := moreMembers_text rest depth fits.2 fewer (by omega)
        (taken.insert key value.reread) tail
      rw [moreMembersText, encode_comma, membersText_cons, Utf8.encode_append, encode_colon,
        Utf8.encode_append, List.cons_append, List.append_assoc, List.cons_append,
        List.append_assoc, rereadMembers]
      refine members_step ?_ here later
      rw [Scan.encode_stringText, List.cons_append]
      exact Scan.hasMember_comma _

end

/-- A document that was written is read again. -/
theorem Value.read_render {value : Value} (fits : value.fits Scan.depthLimit = true) :
    Value.read (Bytes.ofString value.render) = .ok value.reread := by
  have taken := value_text value Scan.depthLimit fits [] ends_nil
  rw [List.append_nil] at taken
  have whole : Scan.document (Scan.value Scan.depthLimit) (Utf8.encode value.text) =
      (.ok value.reread, []) := by
    rw [Scan.document, Scan.bind_of_ok taken]
    rfl
  rw [Value.read, Value.render, Bytes.ofString_ofList]
  exact Scan.run_of_ok whole

/-! ## Members -/

/-- A member is read again under its name, if no other has it. -/
theorem lookup_rereadMembers {members : List (String × Value)}
    (distinct : (members.map Prod.fst).Nodup) (taken : Members) (name : String) :
    (rereadMembers members taken).lookup name =
      ((members.lookup name).map Value.reread).or (taken.lookup name) := by
  induction members generalizing taken with
  | nil => rfl
  | cons member rest ih =>
      obtain ⟨key, value⟩ := member
      rw [List.map_cons, List.nodup_cons] at distinct
      rw [rereadMembers, ih distinct.2, Members.lookup_insert, lookup_cons_eq]
      by_cases same : name = key
      · subst same
        have absent : rest.lookup name = none := by
          rw [List.lookup_eq_none_iff]
          intro pair among
          have other : name ≠ pair.1 := fun equal =>
            distinct.1 (List.mem_map.mpr ⟨pair, among, equal.symm⟩)
          simpa using other
        rw [absent, if_pos rfl, if_pos rfl]
        rfl
      · rw [if_neg same, if_neg same]

theorem Value.member?_reread {members : List (String × Value)}
    (distinct : (members.map Prod.fst).Nodup) (name : String) :
    (Value.object members).reread.member? name = (members.lookup name).map Value.reread := by
  rw [Value.reread, Value.member?, lookup_rereadMembers distinct, List.lookup_nil, Option.or_none]

end HostedCheckout.Json
