import HostedCheckout.Payment.State
import HostedCheckout.Toml.Value

/-!
# Converting settings

A setting may be given as another kind of value than it is: words and truth
values as numbers, numbers as texts.  Floats are rounded to the nearest whole
number, a half away from zero, and numbers that are too large count as the
largest one.
-/

namespace HostedCheckout.Settings

open Toml

/-- The largest whole number of a setting. -/
def largest : Nat := 18446744073709551615

/-- A double as a whole number. -/
def roundedNumber : Binary64 → Nat
  | .finite false magnitude => min ((2 * magnitude.units + Nat.pow 2 1074) / Nat.pow 2 1075) largest
  | .infinite false => largest
  | _ => 0

/-- The whole number that a text stands for. -/
def numberOfText? (text : String) : Option Nat :=
  let word := text.map Char.toLower
  if word ∈ ["true", "on", "yes"] then some 1
  else if word ∈ ["false", "off", "no"] then some 0
  else
    let digits := if text.toList.head? = some '+' then text.toList.drop 1 else text.toList
    if digits ≠ [] ∧ digits.all Char.isDigit then
      some (digits.foldl (fun value digit => value * 10 + (digit.toNat - 48)) 0)
    else none

/-- A setting as a whole number up to a limit. -/
def number? (limit : Nat) (value : Value) : Option Nat :=
  let number :=
    match value with
    | .integer value => if 0 ≤ value then some value.toNat else none
    | .float value => some (roundedNumber value)
    | .boolean value => some (if value then 1 else 0)
    | .string text | .moment text => numberOfText? text
    | .array _ | .table _ => none
  number.filter (· ≤ min limit largest)

/-- A setting as a text. -/
def text? : Value → Option String
  | .string text | .moment text => some text
  | .integer value => some (toString value)
  | .float value => some value.displayText
  | .boolean value => some (toString value)
  | .array _ | .table _ => none

/-- A setting as a notification mode: its name, alone or as the only key of a
table. -/
def mode? : Value → Option NotifyMode
  | .string text | .moment text => NotifyMode.names.lookup text
  | .table [(key, _)] => NotifyMode.names.lookup key
  | _ => none

end HostedCheckout.Settings
