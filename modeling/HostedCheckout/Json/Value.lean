import HostedCheckout.Decimal.Layout

/-!
# JSON values

An object keeps its members in a list.  Reading sorts them by key, with the
last member of a repeated key; a document that is built to be written keeps
the order it was given.
-/

namespace HostedCheckout.Json

/-- A number: an integer that was written as one and fits 64 bits, or a double. -/
inductive Number where
  | integer (value : Int)
  | float (value : Binary64)
  deriving DecidableEq

/-- The number as a double. -/
def Number.toBinary64 : Number → Binary64
  | .integer value => .ofInt value
  | .float value => value

/-- A JSON value. -/
inductive Value where
  | null
  | boolean (value : Bool)
  | number (value : Number)
  | string (value : String)
  | array (items : List Value)
  | object (members : List (String × Value))

/-- Members of an object, by key. -/
abbrev Members := List (String × Value)

/-- Put a member where its key belongs in a sorted list; it replaces a member
of the same key. -/
def Members.insert (key : String) (value : Value) : Members → Members
  | [] => [(key, value)]
  | (other, held) :: rest =>
      if key = other then (key, value) :: rest
      else if key < other then (key, value) :: (other, held) :: rest
      else (other, held) :: Members.insert key value rest

namespace Value

/-- The member of an object with the given key. -/
def member? (key : String) : Value → Option Value
  | .object members => members.lookup key
  | _ => none

/-- The text of a string value. -/
def string? : Value → Option String
  | .string text => some text
  | _ => none

/-- A number of the value, or `null` when JSON has no numeral for it. -/
def ofBinary64 (number : Binary64) : Value :=
  if number.isFinite then .number (.float number) else .null

end Value

end HostedCheckout.Json
