import HostedCheckout.Time.Calendar

/-!
# Dates and times in TOML

A moment is a date, a time, or both with a separator between them and perhaps
an offset.  It is kept in one written form: `T` between date and time, `Z` for
no offset, and no zeros at the end of a fraction.
-/

namespace HostedCheckout.Toml.Moment

/-- The value of so many digits, and nothing else. -/
def number? (count : Nat) (text : List Char) : Option Nat :=
  if text.length = count ∧ text.all Char.isDigit then
    some (text.foldl (fun value digit => value * 10 + (digit.toNat - 48)) 0)
  else none

/-- A date that the calendar has. -/
def date? (text : List Char) : Option (List Char) :=
  match text.splitOn '-' with
  | [year, month, day] => do
      let date : Date := ⟨← number? 4 year, ← number? 2 month, ← number? 2 day⟩
      if date.exists? then return text else none
  | _ => none

/-- A fraction of a second, in at most nine digits. -/
def fraction? (text : List Char) : Option (List Char) :=
  if text ≠ [] ∧ text.all Char.isDigit then
    let kept := ((text.take 9).reverse.dropWhile (· == '0')).reverse
    some ('.' :: if kept = [] then ['0'] else kept)
  else none

/-- A second with its fraction. -/
def second? (text : List Char) : Option (List Char) := do
  let whole := text.takeWhile (· ≠ '.')
  let value ← number? 2 whole
  let fraction ← match text.dropWhile (· ≠ '.') with
    | [] => some []
    | _ :: digits => fraction? digits
  if value ≤ 60 then return whole ++ fraction else none

/-- A time of day; seconds may be left out. -/
def time? (text : List Char) : Option (List Char) :=
  match text.splitOn ':' with
  | hour :: minute :: rest => do
      let hourValue ← number? 2 hour
      let minuteValue ← number? 2 minute
      let seconds ← match rest with
        | [] => some []
        | [second] => (second? second).map (':' :: ·)
        | _ => none
      if hourValue ≤ 23 ∧ minuteValue ≤ 59 then return hour ++ ':' :: minute ++ seconds else none
  | _ => none

/-- An offset of hours and minutes. -/
def offset? (sign : Char) (text : List Char) : Option (List Char) :=
  match text.splitOn ':' with
  | [hour, minute] => do
      let hourValue ← number? 2 hour
      let minuteValue ← number? 2 minute
      if hourValue ≤ 23 ∧ minuteValue ≤ 59 then return sign :: hour ++ ':' :: minute else none
  | _ => none

/-- A time of day with an offset, or without one. -/
def timeWithOffset? (text : List Char) : Option (List Char) := do
  let isMark := fun character => "Zz+-".toList.contains character
  let time ← time? (text.takeWhile fun character => !isMark character)
  match text.dropWhile fun character => !isMark character with
  | [] => return time
  | mark :: rest =>
      if mark = 'Z' ∨ mark = 'z' then
        if rest = [] then return time ++ ['Z'] else none
      else return time ++ (← offset? mark rest)

/-- Whether a character separates a date from a time. -/
def isSeparator (character : Char) : Bool :=
  character == 'T' || character == 't' || character == ' '

/-- The written form of a moment. -/
def read? (text : List Char) : Option (List Char) :=
  match text.drop 10 with
  | [] => (date? text) <|> (time? text)
  | separator :: rest =>
      if isSeparator separator then do
        return (← date? (text.take 10)) ++ 'T' :: (← timeWithOffset? rest)
      else time? text

end HostedCheckout.Toml.Moment
