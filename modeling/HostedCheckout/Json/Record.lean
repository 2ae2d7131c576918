import HostedCheckout.Json.Skip

/-!
# Records

A record is described by its fields: their names, the kind of value each
holds, and what stands for an absent one.  From this description a record is
read from text and decoded from a value.  It may be written as an object, in
which unknown members are ignored, or as an array of the field values in order.

Reading from text refuses a field that is given twice.  Both readers report the
first fault they meet, and look for absent fields only after the last member.
-/

namespace HostedCheckout.Json

/-- A kind of field value: how it is read from text and decoded from a value. -/
structure Kind where
  Carrier : Type
  read : Scan Carrier
  decode : Value → Except Fault Carrier

/-- A field of a record, with the value that stands for an absent one. -/
structure Field where
  name : String
  kind : Kind
  whenAbsent : Option kind.Carrier

/-- The values of all fields. -/
@[reducible] def Row : List Field → Type
  | [] => Unit
  | field :: rest => field.kind.Carrier × Row rest

/-- The values of the fields met so far. -/
@[reducible] def PartialRow : List Field → Type
  | [] => Unit
  | field :: rest => Option field.kind.Carrier × PartialRow rest

/-- No field met yet. -/
def PartialRow.empty : (fields : List Field) → PartialRow fields
  | [] => ()
  | _ :: rest => (none, PartialRow.empty rest)

/-- All values, or the first field that is absent and has no stand-in. -/
def PartialRow.complete : (fields : List Field) → PartialRow fields → Except Fault (Row fields)
  | [], _ => .ok ()
  | field :: rest, (held, others) =>
      match held, field.whenAbsent with
      | some value, _ => return (value, ← PartialRow.complete rest others)
      | none, some value => return (value, ← PartialRow.complete rest others)
      | none, none => .error (.missingField field.name)

/-- A record type in words. -/
def recordName (name : String) : String :=
  s!"struct {name}"

/-- A record type and its number of fields in words. -/
def recordSize (name : String) (size : Nat) : String :=
  s!"struct {name} with {size} " ++ if size = 1 then "element" else "elements"

namespace Scan

/-- Refuse the value that comes next, whatever it is. -/
def unexpected {α : Type} (expected : String) : Scan α := do
  match ← peekToken? with
  | none => failAhead .endOfValue
  | some octet =>
      if beginsWord octet then do
        let found ← word octet
        fail (.wrongKind found.found expected)
      else if beginsNumber octet then do
        let found ← number
        fail (.wrongKind (Value.number found).found expected)
      else if octet = 0x22 then do
        let found ← key
        fail (.wrongKind (.string found) expected)
      else if octet = 0x5B then fail (.wrongKind .sequence expected)
      else if octet = 0x7B then fail (.wrongKind .map expected)
      else failAhead .expectedValue

/-- Take a string. -/
def text (expected : String) : Scan String := do
  match ← peekToken? with
  | some 0x22 => key
  | _ => unexpected expected

/-- Take a number as a double. -/
def double : Scan Binary64 := do
  match ← peekToken? with
  | some octet =>
      if beginsNumber octet then return (← number).toBinary64 else unexpected "f64"
  | none => unexpected "f64"

/-- Take `null`, or a value. -/
def optional {α : Type} (scanner : Scan α) : Scan (Option α) := do
  match ← peekToken? with
  | some 0x6E => do
      let _ ← word 0x6E
      return none
  | _ => return some (← scanner)

/-- Take `null`. -/
def unit : Scan Unit := do
  match ← peekToken? with
  | some 0x6E => do
      let _ ← word 0x6E
      return ()
  | _ => unexpected "unit"

/-- Take the name of a choice. -/
def choiceName {α : Type} (table : List (String × α)) : Scan α := do
  let given ← text "variant identifier"
  match table.lookup given with
  | some chosen => pure chosen
  | none => fail (.unknownChoice given (table.map Prod.fst))

/-- Take a choice: its name, or an object whose only key is the name and whose
value is `null`. -/
def choice {α : Type} (table : List (String × α)) : Scan α := do
  match ← peekToken? with
  | none => failAhead .endOfValue
  | some octet =>
      if octet = 0x22 then choiceName table
      else if octet = 0x7B then do
        advance
        let chosen ← choiceName table
        colon
        unit
        match ← peekToken? with
        | none => fail .endOfObject
        | some next =>
            if next = 0x7D then do
              advance
              return chosen
            else fail .expectedValue
      else failAhead .expectedValue

/-- Take the field values of a record written as an array. -/
def fieldElements (name : String) (size : Nat) :
    Nat → (fields : List Field) → Scan (Row fields)
  | _, [] => pure ()
  | index, field :: rest => do
      let given ← within (.element index) do
        if ← hasElement (index == 0) then return some (← field.kind.read) else return none
      match given, field.whenAbsent with
      | some value, _ => return (value, ← fieldElements name size (index + 1) rest)
      | none, some value => return (value, ← fieldElements name size (index + 1) rest)
      | none, none => failUnplaced (.wrongLength index (recordSize name size))

/-- Take the value of the named field; `none` when no field has the name. -/
def fieldMember (name : String) :
    (fields : List Field) → PartialRow fields → Scan (Option (PartialRow fields))
  | [], _ => pure none
  | field :: rest, (held, others) =>
      if field.name = name then
        match held with
        | some _ => failUnplaced (.repeatedField name)
        | none => within (.field name) do
            colon
            return some (some (← field.kind.read), others)
      else do
        match ← fieldMember name rest others with
        | some others => return some (held, others)
        | none => return none

/-- Take the field values of a record written as an object. -/
def fieldMembers (fields : List Field) : Nat → Bool → PartialRow fields → Scan (PartialRow fields)
  | 0, _, taken => pure taken
  | remaining + 1, first, taken => do
      if ← hasMember first then
        let name ← key
        match ← fieldMember name fields taken with
        | some longer => fieldMembers fields remaining false longer
        | none => do
            within (.field name) do
              colon
              skipValue
            fieldMembers fields remaining false taken
      else return taken

/-- Take the inside of a bracket and its end.  The end is looked for even when
the inside has failed, and a fault without a place is placed after it. -/
def bracketed {α : Type} (inside : Scan α) (close : Scan Unit) : Scan α := do
  advance
  let outcome ← attempt inside
  let closing ← attempt close
  let result ← conclude outcome
  conclude closing
  return result

/-- Take a record. -/
def record (name : String) (fields : List Field) : Scan (Row fields) := placed do
  match ← peekToken? with
  | none => failAhead .endOfValue
  | some octet =>
      if octet = 0x5B then
        bracketed (fieldElements name fields.length 0 fields) closeArray
      else if octet = 0x7B then
        bracketed (do
          let taken ← fieldMembers fields ((← get).length + 1) true (.empty fields)
          match taken.complete with
          | .ok row => pure row
          | .error fault => failUnplaced fault) closeObject
      else unexpected (recordName name)

end Scan

namespace Row

/-- Decode the field values of a record given as an array; the answer holds the
elements left over. -/
def ofElements (name : String) (size : Nat) :
    Nat → (fields : List Field) → List Value → Except Fault (Row fields × List Value)
  | _, [], items => .ok ((), items)
  | index, field :: rest, items =>
      match items, field.whenAbsent with
      | item :: more, _ => do
          let value ← field.kind.decode item
          let (others, left) ← ofElements name size (index + 1) rest more
          return ((value, others), left)
      | [], some value => do
          let (others, left) ← ofElements name size (index + 1) rest []
          return ((value, others), left)
      | [], none => .error (.wrongLength index (recordSize name size))

/-- Decode the value of the named field; a value without a field is ignored. -/
def withMember (name : String) (value : Value) :
    (fields : List Field) → PartialRow fields → Except Fault (PartialRow fields)
  | [], taken => .ok taken
  | field :: rest, (held, others) =>
      if field.name = name then
        match held with
        | some _ => .error (.repeatedField name)
        | none => do
            let decoded ← field.kind.decode value
            return (some decoded, others)
      else do
        let others ← withMember name value rest others
        return (held, others)

/-- Decode the field values of a record given as an object. -/
def ofMembers (fields : List Field) : Members → PartialRow fields → Except Fault (PartialRow fields)
  | [], taken => .ok taken
  | (name, value) :: rest, taken => do
      ofMembers fields rest (← withMember name value fields taken)

/-- Decode a record. -/
def ofValue (name : String) (fields : List Field) : Value → Except Fault (Row fields)
  | .array items => do
      let (row, left) ← ofElements name fields.length 0 fields items
      if left.isEmpty then return row
      else throw (.wrongLength items.length "fewer elements in array")
  | .object members => do
      (← ofMembers fields members (.empty fields)).complete
  | other => .error (.wrongKind other.found (recordName name))

end Row

namespace Kind

/-- A string. -/
@[reducible] def text : Kind where
  Carrier := String
  read := Scan.text "a string"
  decode
    | .string value => .ok value
    | other => .error (.wrongKind other.found "a string")

/-- A number, as a double. -/
@[reducible] def double : Kind where
  Carrier := Binary64
  read := Scan.double
  decode
    | .number value => .ok value.toBinary64
    | other => .error (.wrongKind other.found "f64")

/-- One of several names. -/
@[reducible] def choice {α : Type} (table : List (String × α)) : Kind where
  Carrier := α
  read := Scan.choice table
  decode
    | .string given =>
        match table.lookup given with
        | some chosen => .ok chosen
        | none => .error (.unknownChoice given (table.map Prod.fst))
    | other => .error (.wrongKind other.found "string or map")

/-- The members of an object. -/
@[reducible] def members : Kind where
  Carrier := Members
  read := do
    match ← Scan.value Scan.depthLimit with
    | .object taken => pure taken
    | other => Scan.fail (.wrongKind other.found "a map")
  decode
    | .object taken => .ok taken
    | other => .error (.wrongKind other.found "a map")

/-- `null`, or a value of the kind. -/
@[reducible] def optional (kind : Kind) : Kind where
  Carrier := Option kind.Carrier
  read := Scan.optional kind.read
  decode
    | .null => .ok none
    | other => (kind.decode other).map some

/-- A record. -/
@[reducible] def record {α : Type} (name : String) (fields : List Field) (build : Row fields → α) :
    Kind where
  Carrier := α
  read := build <$> Scan.record name fields
  decode value := (Row.ofValue name fields value).map build

/-- Read a whole text as one value of the kind. -/
def readText (kind : Kind) (input : Bytes) : Except Error kind.Carrier :=
  (Scan.document kind.read).run input

/-- Decode a value. -/
def ofValue (kind : Kind) (value : Value) : Except Error kind.Carrier :=
  match kind.decode value with
  | .ok decoded => .ok decoded
  | .error fault => .error ⟨fault, none, []⟩

end Kind

end HostedCheckout.Json
