import HostedCheckout.Decimal.Binary64

/-!
# Decimal numerals

A numeral is an optional sign, digits with an optional point among or beside
them, and an optional exponent.  It denotes the double nearest to its exact
value.
-/

namespace HostedCheckout.Numeral

/-- The value of a run of decimal digits. -/
def digitsValue (digits : List Char) : Nat :=
  digits.foldl (fun value digit => value * 10 + (digit.toNat - 48)) 0

/-- A numeral taken apart: its value is `digits * 10 ^ exponent`, negated when
the sign says so. -/
structure Parts where
  negative : Bool
  digits : Nat
  exponent : Int

/-- Split off a sign. -/
def splitSign : List Char → Bool × List Char
  | '-' :: rest => (true, rest)
  | '+' :: rest => (false, rest)
  | rest => (false, rest)

/-- The exponent part: nothing, or `e` and a signed run of digits. -/
def exponent? : List Char → Option Int
  | [] => some 0
  | mark :: rest =>
      if mark = 'e' ∨ mark = 'E' then
        let signed := splitSign rest
        if signed.2 ≠ [] ∧ signed.2.all Char.isDigit then
          some (if signed.1 then -(digitsValue signed.2 : Int) else digitsValue signed.2)
        else none
      else none

/-- Take a numeral apart. -/
def parts? (text : List Char) : Option Parts :=
  let signed := splitSign text
  let whole := signed.2.takeWhile Char.isDigit
  let afterWhole := signed.2.dropWhile Char.isDigit
  let pointed := match afterWhole with
    | '.' :: rest => (rest.takeWhile Char.isDigit, rest.dropWhile Char.isDigit)
    | rest => ([], rest)
  if whole = [] ∧ pointed.1 = [] then none
  else (exponent? pointed.2).map fun exponent =>
    ⟨signed.1, digitsValue (whole ++ pointed.1), exponent - pointed.1.length⟩

/-- The double that a numeral denotes; `inf` and `NaN` are numerals too. -/
def binary64? (text : String) : Option Binary64 :=
  let signed := splitSign text.toList
  if signed.2 = ['i', 'n', 'f'] then some (.infinite signed.1)
  else if signed.2 = ['N', 'a', 'N'] ∨ signed.2 = ['n', 'a', 'n'] then some .nan
  else (parts? text.toList).map fun parts =>
    .ofDecimal parts.negative parts.digits parts.exponent

end HostedCheckout.Numeral
