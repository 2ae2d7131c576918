import HostedCheckout.Decimal.Shortest

/-!
# How a double is written

Both forms write the shortest decimal.  They differ in four decisions, which
one record holds: where the positional form ends and the exponent form begins,
whether a whole number keeps a fractional zero, and how a tie between two
shortest decimals is settled.
-/

namespace HostedCheckout

/-- The decisions that make up a written form of doubles. -/
structure Layout where
  /-- How a tie between two shortest decimals is settled. -/
  tie : TieRule
  /-- The power of ten of the leading digit for which digits are written
  positionally. -/
  positional : Int → Bool
  /-- What follows a whole number in the positional form. -/
  wholeMark : List Char

namespace Layout

/-- Numbers in documents: positional from `0.00001` to below `10 ^ 16`, with at
least one digit after the point. -/
def document : Layout :=
  ⟨.toEven, fun lead => decide (-5 ≤ lead ∧ lead ≤ 15), ['.', '0']⟩

/-- Numbers shown to people: never an exponent, and no point in a whole number. -/
def display : Layout :=
  ⟨.upward, fun _ => true, []⟩

/-- The digits of a decimal with the point in its place. -/
def positionalText (wholeMark : List Char) (digits : List Char) (exponent : Int) : List Char :=
  if 0 ≤ exponent then
    digits ++ List.replicate exponent.toNat '0' ++ wholeMark
  else
    let places := (-exponent).toNat
    if places < digits.length then
      digits.take (digits.length - places) ++ '.' :: digits.drop (digits.length - places)
    else
      '0' :: '.' :: List.replicate (places - digits.length) '0' ++ digits

/-- The exponent of ten, its sign always written. -/
def exponentText (lead : Int) : List Char :=
  'e' :: (if lead < 0 then '-' else '+') :: Nat.toDigits 10 lead.natAbs

/-- One digit before the point, the rest after it, and the exponent. -/
def exponentForm (digits : List Char) (lead : Int) : List Char :=
  match digits with
  | [] => []
  | [digit] => digit :: exponentText lead
  | digit :: rest => digit :: '.' :: rest ++ exponentText lead

/-- A nonnegative decimal in the layout. -/
def decimalText (layout : Layout) (decimal : Decimal) : List Char :=
  let digits := Nat.toDigits 10 decimal.digits
  let lead := decimal.exponent + digits.length - 1
  if layout.positional lead then positionalText layout.wholeMark digits decimal.exponent
  else exponentForm digits lead

/-- A finite nonnegative double in the layout. -/
def magnitudeText (layout : Layout) (magnitude : Magnitude) : List Char :=
  layout.decimalText (magnitude.shortest layout.tie)

/-- Any double in the layout. -/
def text (layout : Layout) : Binary64 → List Char
  | .nan => ['N', 'a', 'N']
  | .infinite negative => (if negative then ['-'] else []) ++ ['i', 'n', 'f']
  | .finite negative magnitude =>
      (if negative then ['-'] else []) ++ layout.magnitudeText magnitude

end Layout

namespace Binary64

/-- The number as documents write it. -/
def documentText (number : Binary64) : String :=
  String.ofList (Layout.document.text number)

/-- The number as people read it. -/
def displayText (number : Binary64) : String :=
  String.ofList (Layout.display.text number)

end Binary64

end HostedCheckout
