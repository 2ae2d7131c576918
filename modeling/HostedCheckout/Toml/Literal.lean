import HostedCheckout.Decimal.Numeral
import HostedCheckout.Toml.Moment
import HostedCheckout.Toml.Value

/-!
# Bare values in TOML

A value without quotes or brackets is `true` or `false`, a number or a moment.
Digits may be grouped by single underscores.  Integers fit 64 bits and may be
written in base 16, 8 or 2; floats have a fraction or an exponent.
-/

namespace HostedCheckout.Toml.Literal

/-- Digits without the underscores, each of which must stand between two digits. -/
def ungroup? (isDigit : Char → Bool) (text : List Char) : Option (List Char) :=
  let groups := text.splitOn '_'
  if groups.all (fun group => group != [] && group.all isDigit) then some groups.flatten else none

/-- The value of a digit. -/
def digitValue (digit : Char) : Nat :=
  if digit.isDigit then digit.toNat - 48 else digit.toLower.toNat - 87

/-- Whether a character is a digit of a base. -/
def isDigitOf (base : Nat) (character : Char) : Bool :=
  (character.isDigit || ('a' ≤ character.toLower && character.toLower ≤ 'f'))
    && digitValue character < base

/-- The number that grouped digits spell. -/
def number? (base : Nat) (text : List Char) : Option Nat :=
  (ungroup? (isDigitOf base) text).map
    (·.foldl (fun value digit => value * base + digitValue digit) 0)

/-- A decimal number without a leading zero. -/
def decimal? (text : List Char) : Option Nat :=
  if text.head? = some '0' ∧ text.length ≠ 1 then none else number? 10 text

/-- An integer of 64 bits. -/
def inRange? (value : Int) : Option Int :=
  if -9223372036854775808 ≤ value ∧ value ≤ 9223372036854775807 then some value else none

/-- An integer. -/
def integer? (text : List Char) : Option Int :=
  match text with
  | '0' :: 'x' :: digits => (number? 16 digits).bind (inRange? ·)
  | '0' :: 'o' :: digits => (number? 8 digits).bind (inRange? ·)
  | '0' :: 'b' :: digits => (number? 2 digits).bind (inRange? ·)
  | _ =>
      let signed := Numeral.splitSign text
      (decimal? signed.2).bind fun value =>
        inRange? (if signed.1 then -(value : Int) else value)

/-- The exponent of a float, its digits ungrouped. -/
def exponent? (text : List Char) : Option (List Char) :=
  match text with
  | [] => some []
  | _ :: '-' :: digits => (ungroup? Char.isDigit digits).map ('e' :: '-' :: ·)
  | _ :: '+' :: digits => (ungroup? Char.isDigit digits).map ('e' :: ·)
  | _ :: digits => (ungroup? Char.isDigit digits).map ('e' :: ·)

/-- The numeral of a float that is neither infinite nor a number's absence. -/
def numeral? (text : List Char) : Option (List Char) := do
  let isMark := fun character => "eE".toList.contains character
  let mantissa := text.takeWhile fun character => !isMark character
  let exponent ← exponent? (text.dropWhile fun character => !isMark character)
  let whole := mantissa.takeWhile (· ≠ '.')
  let _ ← decimal? whole
  let digits ← ungroup? Char.isDigit whole
  match mantissa.dropWhile (· ≠ '.') with
  | [] => if exponent = [] then none else return digits ++ exponent
  | _ :: fraction => return digits ++ '.' :: (← ungroup? Char.isDigit fraction) ++ exponent

/-- A float. -/
def float? (text : List Char) : Option Binary64 :=
  let signed := Numeral.splitSign text
  let value :=
    if signed.2 = ['i', 'n', 'f'] then some (.infinite false)
    else if signed.2 = ['n', 'a', 'n'] then some .nan
    else (numeral? signed.2).bind fun numeral =>
      (Numeral.binary64? (String.ofList numeral)).filter Binary64.isFinite
  value.map fun number => if signed.1 then number.negate else number

/-- A bare value. -/
def read? (text : List Char) : Option Value :=
  if text = ['t', 'r', 'u', 'e'] then some (.boolean true)
  else if text = ['f', 'a', 'l', 's', 'e'] then some (.boolean false)
  else ((integer? text).map .integer)
    <|> ((float? text).map .float)
    <|> ((Moment.read? text).map fun moment => .moment (String.ofList moment))

end HostedCheckout.Toml.Literal
