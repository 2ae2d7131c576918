import HostedCheckout.Json.Writer
import HostedCheckout.Text.Quoted

/-!
# What can be wrong with a JSON text

A fault is either in the grammar or in the data: a value of the wrong kind, a
missing or repeated field, a wrong number of elements, or an unknown choice.
The wording of every fault is in one place.
-/

namespace HostedCheckout.Json

/-- The kind of value that was found where another was expected. -/
inductive Found where
  | null
  | boolean (value : Bool)
  | integer (value : Int)
  | float (value : Binary64)
  | string (value : String)
  | sequence
  | map

/-- The causes for which a JSON text is refused. -/
inductive Fault where
  | endOfValue
  | endOfList
  | endOfObject
  | endOfString
  | expectedColon
  | expectedElementSeparator
  | expectedMemberSeparator
  | expectedLiteral
  | expectedValue
  | invalidEscape
  | invalidNumber
  | numberOutOfRange
  | invalidCodePoint
  | controlCharacter
  | keyNotString
  | loneSurrogate
  | unfinishedPair
  | trailingComma
  | trailingCharacters
  | nestingTooDeep
  | wrongKind (found : Found) (expected : String)
  | missingField (name : String)
  | repeatedField (name : String)
  | wrongLength (length : Nat) (expected : String)
  | unknownChoice (given : String) (choices : List String)

/-- A found value in words. -/
def Found.describe : Found → String
  | .null => "null"
  | .boolean value => s!"boolean `{value}`"
  | .integer value => s!"integer `{value}`"
  | .float value => s!"floating point `{value.documentText}`"
  | .string value => s!"string {Text.quoted value}"
  | .sequence => "sequence"
  | .map => "map"

/-- How a value is described when it is not what was expected. -/
def Value.found : Value → Found
  | .null => .null
  | .boolean value => .boolean value
  | .number (.integer value) => .integer value
  | .number (.float value) => .float value
  | .string value => .string value
  | .array _ => .sequence
  | .object _ => .map

/-- A name between backquotes. -/
def ticked (name : String) : String :=
  s!"`{name}`"

/-- The choices that would have been accepted, in words. -/
def choicesText : List String → String
  | [] => "there are no variants"
  | [only] => s!"expected {ticked only}"
  | [one, other] => s!"expected {ticked one} or {ticked other}"
  | choices => "expected one of " ++ String.intercalate ", " (choices.map ticked)

/-- The wording of a fault. -/
def Fault.message : Fault → String
  | .endOfValue => "EOF while parsing a value"
  | .endOfList => "EOF while parsing a list"
  | .endOfObject => "EOF while parsing an object"
  | .endOfString => "EOF while parsing a string"
  | .expectedColon => "expected `:`"
  | .expectedElementSeparator => "expected `,` or `]`"
  | .expectedMemberSeparator => "expected `,` or `\x7d`"
  | .expectedLiteral => "expected ident"
  | .expectedValue => "expected value"
  | .invalidEscape => "invalid escape"
  | .invalidNumber => "invalid number"
  | .numberOutOfRange => "number out of range"
  | .invalidCodePoint => "invalid unicode code point"
  | .controlCharacter => "control character (\\u0000-\\u001F) found while parsing a string"
  | .keyNotString => "key must be a string"
  | .loneSurrogate => "lone leading surrogate in hex escape"
  | .unfinishedPair => "unexpected end of hex escape"
  | .trailingComma => "trailing comma"
  | .trailingCharacters => "trailing characters"
  | .nestingTooDeep => "recursion limit exceeded"
  | .wrongKind found expected => s!"invalid type: {found.describe}, expected {expected}"
  | .missingField name => s!"missing field {ticked name}"
  | .repeatedField name => s!"duplicate field {ticked name}"
  | .wrongLength length expected => s!"invalid length {length}, expected {expected}"
  | .unknownChoice given choices => s!"unknown variant {ticked given}, {choicesText choices}"

/-- Whether the text was JSON, but not of the expected data. -/
def Fault.isData : Fault → Bool
  | .wrongKind _ _ | .missingField _ | .repeatedField _ | .wrongLength _ _
  | .unknownChoice _ _ => true
  | _ => false

/-- Where in a text a fault was noticed: a line, counted from one, and a number
of octets in it. -/
structure Position where
  line : Nat
  column : Nat
  deriving DecidableEq, Repr

/-- A step from a value into one of its parts. -/
inductive PathStep where
  | field (name : String)
  | element (index : Nat)

/-- A refusal: its cause, where it was noticed if a text was being read, and
the part of the value in which it arose. -/
structure Error where
  fault : Fault
  position : Option Position
  path : List PathStep

/-- The wording of a refusal, with its position. -/
def Error.message (error : Error) : String :=
  match error.position with
  | some position =>
      s!"{error.fault.message} at line {position.line} column {position.column}"
  | none => error.fault.message

/-- A path in words: fields joined by points, element numbers in brackets. -/
def pathText : List PathStep → String
  | [] => ""
  | .field name :: rest =>
      name ++ (match rest with | .field _ :: _ => "." | _ => "") ++ pathText rest
  | .element index :: rest =>
      s!"[{index}]" ++ (match rest with | .field _ :: _ => "." | _ => "") ++ pathText rest

/-- The wording of a refusal, preceded by the part in which it arose. -/
def Error.messageWithPath (error : Error) : String :=
  match error.path with
  | [] => error.message
  | path => s!"{pathText path}: {error.message}"

end HostedCheckout.Json
