import HostedCheckout.Json.Numeral
import HostedCheckout.Json.StringBody

/-!
# Reading values

A value is read from the front of the text.  Arrays and objects may be nested
127 deep; the bound on a loop over their parts is the number of octets left,
and every part takes at least one.
-/

namespace HostedCheckout.Json

namespace Scan

/-- How deep arrays and objects may be nested. -/
def depthLimit : Nat := 127

/-- Whether another element follows; its separator is taken. -/
def hasElement (first : Bool) : Scan Bool := do
  match ← peekToken? with
  | none => failAhead .endOfList
  | some octet =>
      if octet = 0x5D then return false
      else if first then return true
      else if octet = 0x2C then do
        advance
        match ← peekToken? with
        | none => failAhead .endOfValue
        | some next => if next = 0x5D then failAhead .trailingComma else return true
      else failAhead .expectedElementSeparator

/-- Take the end of an array. -/
def closeArray : Scan Unit := do
  match ← peekToken? with
  | none => failAhead .endOfList
  | some octet =>
      if octet = 0x5D then advance
      else if octet = 0x2C then do
        advance
        match ← peekToken? with
        | some 0x5D => failAhead .trailingComma
        | _ => failAhead .trailingCharacters
      else failAhead .trailingCharacters

/-- Whether another member follows; its separator is taken. -/
def hasMember (first : Bool) : Scan Bool := do
  match ← peekToken? with
  | none => failAhead .endOfObject
  | some octet =>
      if octet = 0x7D then return false
      else if first then
        if octet = 0x22 then return true else failAhead .keyNotString
      else if octet = 0x2C then do
        advance
        match ← peekToken? with
        | none => failAhead .endOfValue
        | some next =>
            if next = 0x22 then return true
            else if next = 0x7D then failAhead .trailingComma
            else failAhead .keyNotString
      else failAhead .expectedMemberSeparator

/-- Take the end of an object. -/
def closeObject : Scan Unit := do
  match ← peekToken? with
  | none => failAhead .endOfObject
  | some octet =>
      if octet = 0x7D then advance
      else if octet = 0x2C then failAhead .trailingComma
      else failAhead .trailingCharacters

/-- Take the colon after a key. -/
def colon : Scan Unit := do
  match ← peekToken? with
  | none => failAhead .endOfObject
  | some octet => if octet = 0x3A then advance else failAhead .expectedColon

/-- Take a key; its opening quote comes next. -/
def key : Scan String := do
  advance
  string

/-- Take the elements of an array. -/
def elements (item : Scan Value) : Nat → Bool → List Value → Scan (List Value)
  | 0, _, taken => pure taken.reverse
  | remaining + 1, first, taken => do
      if ← hasElement first then
        let value ← item
        elements item remaining false (value :: taken)
      else return taken.reverse

/-- Take the members of an object; the last member of a repeated key stays. -/
def members (item : Scan Value) : Nat → Bool → Members → Scan Members
  | 0, _, taken => pure taken
  | remaining + 1, first, taken => do
      if ← hasMember first then
        let name ← key
        colon
        let value ← item
        members item remaining false (taken.insert name value)
      else return taken

/-- Take a value whose first octet is a letter of `null`, `true` or `false`. -/
def word (octet : UInt8) : Scan Value := do
  advance
  if octet = 0x6E then do
    literal [0x75, 0x6C, 0x6C]
    return .null
  else if octet = 0x74 then do
    literal [0x72, 0x75, 0x65]
    return .boolean true
  else do
    literal [0x61, 0x6C, 0x73, 0x65]
    return .boolean false

/-- Whether an octet begins `null`, `true` or `false`. -/
def beginsWord (octet : UInt8) : Bool :=
  octet == 0x6E || octet == 0x74 || octet == 0x66

/-- Whether an octet begins a number. -/
def beginsNumber (octet : UInt8) : Bool :=
  octet == 0x2D || isDigit octet

/-- Take a value whose parts are read by the given scanner; without one, arrays
and objects are refused. -/
def valueOf (part : Option (Scan Value)) : Scan Value := do
  match ← peekToken? with
  | none => failAhead .endOfValue
  | some octet =>
      if beginsWord octet then word octet
      else if beginsNumber octet then return .number (← number)
      else if octet = 0x22 then return .string (← key)
      else if octet = 0x5B then
        match part with
        | none => failAhead .nestingTooDeep
        | some item => do
            advance
            let items ← elements item ((← get).length + 1) true []
            closeArray
            return .array items
      else if octet = 0x7B then
        match part with
        | none => failAhead .nestingTooDeep
        | some item => do
            advance
            let taken ← members item ((← get).length + 1) true []
            closeObject
            return .object taken
      else failAhead .expectedValue

/-- Take a value with at most so many levels of nesting. -/
def value : Nat → Scan Value
  | 0 => valueOf none
  | depth + 1 => valueOf (some (value depth))

/-- Take blanks up to the end of the text. -/
def finish : Scan Unit := do
  match ← peekToken? with
  | none => pure ()
  | some _ => failAhead .trailingCharacters

/-- Take what stands for a whole text. -/
def document {α : Type} (scanner : Scan α) : Scan α := do
  let result ← scanner
  finish
  return result

end Scan

/-- Read a whole text as a value. -/
def Value.read (text : Bytes) : Except Error Value :=
  (Scan.document (Scan.value Scan.depthLimit)).run text

end HostedCheckout.Json
