import HostedCheckout.Json.Value

/-!
# Compact JSON text

A value is written without any blank.  In a string only the double quote, the
backslash and the characters below U+0020 are escaped.
-/

namespace HostedCheckout.Json

/-- A lowercase hexadecimal digit. -/
def hexDigit (value : Nat) : Char :=
  Nat.digitChar (value % 16)

/-- How one character is written inside a string. -/
def escapeChar (character : Char) : List Char :=
  if character = '"' then ['\\', '"']
  else if character = '\\' then ['\\', '\\']
  else if character = '\x08' then ['\\', 'b']
  else if character = '\x0c' then ['\\', 'f']
  else if character = '\n' then ['\\', 'n']
  else if character = '\r' then ['\\', 'r']
  else if character = '\t' then ['\\', 't']
  else if character.toNat < 0x20 then
    ['\\', 'u', '0', '0', hexDigit (character.toNat / 16), hexDigit character.toNat]
  else [character]

/-- A string between its quotes. -/
def stringText (text : String) : List Char :=
  '"' :: text.toList.flatMap escapeChar ++ ['"']

/-- The numeral of a number; a double without one is written `null`. -/
def Number.text : Number → List Char
  | .integer value => (toString value).toList
  | .float value =>
      if value.isFinite then Layout.document.text value else "null".toList

mutual

/-- The characters of a value. -/
def Value.text : Value → List Char
  | .null => "null".toList
  | .boolean true => "true".toList
  | .boolean false => "false".toList
  | .number value => value.text
  | .string value => stringText value
  | .array items => '[' :: itemsText items ++ [']']
  | .object members => '\x7b' :: membersText members ++ ['\x7d']

/-- The elements of an array, separated by commas. -/
def itemsText : List Value → List Char
  | [] => []
  | [item] => item.text
  | item :: next :: rest => item.text ++ ',' :: itemsText (next :: rest)

/-- The members of an object, separated by commas. -/
def membersText : List (String × Value) → List Char
  | [] => []
  | [(key, value)] => stringText key ++ ':' :: value.text
  | (key, value) :: next :: rest =>
      stringText key ++ ':' :: value.text ++ ',' :: membersText (next :: rest)

end

/-- The compact text of a value. -/
def Value.render (value : Value) : String :=
  String.ofList value.text

end HostedCheckout.Json
