import HostedCheckout.Json.Scan

/-!
# Reading numbers

An integer that fits 64 bits stays an integer.  Any other number becomes a
double: its leading digits, as many as fit 64 bits, are rounded once and then
multiplied or divided by a power of ten, which rounds again.
-/

namespace HostedCheckout.Json

/-- The largest unsigned 64-bit number. -/
def wordLimit : Nat := 18446744073709551615

/-- Digits taken off the front: the number they extend, and how many they were.
Taking stops where the number would pass the limit. -/
def takeDigits (limit : Nat) (value : Nat) (count : Nat) : Bytes → Nat × Nat × Bytes
  | [] => (value, count, [])
  | octet :: rest =>
      let longer := value * 10 + (octet.toNat - 48)
      if Scan.isDigit octet ∧ longer ≤ limit then takeDigits limit longer (count + 1) rest
      else (value, count, octet :: rest)

/-- `significand * 10 ^ exponent`, rounded as the significand is and again at
every power; `none` when it is too large.  Powers past `10 ^ 308` are taken in
steps, and two steps down reach zero. -/
def scaled? (significand : Binary64) (exponent : Int) : Nat → Option Binary64
  | 0 => some significand
  | steps + 1 =>
      if 0 ≤ exponent then
        if exponent ≤ 308 then
          let product := significand.scaleUp exponent.toNat
          if product.isFinite then some product else none
        else if significand.isPositive then none
        else some significand
      else if -308 ≤ exponent then some (significand.scaleDown (-exponent).toNat)
      else scaled? (significand.scaleDown 308) (exponent + 308) steps

/-- Give a number its sign. -/
def signed (negative : Bool) (number : Binary64) : Binary64 :=
  if negative then number.negate else number

namespace Scan

/-- Take decimal digits and forget them. -/
def skipDigits : Scan Unit :=
  modify fun rest => rest.dropWhile isDigit

/-- The double of a significand and an exponent. -/
def float (negative : Bool) (significand : Nat) (exponent : Int) : Scan Binary64 :=
  match scaled? (.ofNat significand) exponent 4 with
  | some number => pure (signed negative number)
  | none => fail .numberOutOfRange

/-- Take an exponent mark, a sign and digits.  An exponent past 32 bits makes
the number zero or too large. -/
def exponentPart (negative : Bool) (significand : Nat) (exponent : Int) : Scan Binary64 := do
  advance
  let down ← match ← peek? with
    | some 0x2B => do advance; pure false
    | some 0x2D => do advance; pure true
    | _ => pure false
  match ← peek? with
  | none => fail .endOfValue
  | some octet =>
      if isDigit octet then
        let (written, _, rest) := takeDigits 2147483647 0 0 (← get)
        set rest
        if (rest.head?.map isDigit).getD false then
          advance
          if significand ≠ 0 ∧ !down then fail .numberOutOfRange
          else do
            skipDigits
            pure (.zero negative)
        else
          float negative significand (if down then exponent - written else exponent + written)
      else do
        advance
        fail .invalidNumber

/-- Take what may follow the digits of a double: an exponent or nothing. -/
def afterDigits (negative : Bool) (significand : Nat) (exponent : Int) : Scan Binary64 := do
  match ← peek? with
  | some 0x65 | some 0x45 => exponentPart negative significand exponent
  | _ => float negative significand exponent

/-- Take a point and the digits after it.  Digits past 64 bits are dropped. -/
def fractionPart (negative : Bool) (significand : Nat) (exponent : Int) : Scan Binary64 := do
  advance
  let (longer, count, rest) := takeDigits wordLimit significand 0 (← get)
  set rest
  if (rest.head?.map isDigit).getD false then
    skipDigits
    afterDigits negative longer (exponent - count)
  else if count = 0 then
    match ← peek? with
    | some _ => failAhead .invalidNumber
    | none => failAhead .endOfValue
  else afterDigits negative longer (exponent - count)

/-- A whole number that fits 64 bits: an integer, unless it is a negative zero or
below the smallest signed 64-bit number. -/
def wholeNumber (negative : Bool) (value : Nat) : Number :=
  if !negative then .integer value
  else if value = 0 ∨ 9223372036854775808 < value then .float (.negate (.ofNat value))
  else .integer (-(value : Int))

/-- Take what follows the first digits of a number. -/
def numberTail (negative : Bool) (value : Nat) : Scan Number := do
  match ← peek? with
  | some 0x2E => return .float (← fractionPart negative value 0)
  | some 0x65 | some 0x45 => return .float (← exponentPart negative value 0)
  | _ => return wholeNumber negative value

/-- Take a number whose sign has been taken. -/
def unsignedNumber (negative : Bool) : Scan Number := do
  match ← peek? with
  | none => fail .endOfValue
  | some 0x30 => do
      advance
      match ← peek? with
      | some octet =>
          if isDigit octet then failAhead .invalidNumber else numberTail negative 0
      | none => numberTail negative 0
  | some octet =>
      if isDigit octet then
        let (value, _, rest) := takeDigits wordLimit 0 0 (← get)
        let beyond := (rest.takeWhile isDigit).length
        set (rest.drop beyond)
        if beyond = 0 then numberTail negative value
        else do
          match ← peek? with
          | some 0x2E => return .float (← fractionPart negative value beyond)
          | _ => return .float (← afterDigits negative value beyond)
      else do
        advance
        fail .invalidNumber

/-- Take a number; its first octet is a digit or a minus sign. -/
def number : Scan Number := do
  match ← peek? with
  | some 0x2D => do
      advance
      unsignedNumber true
  | _ => unsignedNumber false

end Scan

end HostedCheckout.Json
