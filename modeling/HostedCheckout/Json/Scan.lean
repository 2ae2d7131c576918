import HostedCheckout.Json.Fault
import HostedCheckout.Text.Utf8

/-!
# Scanning JSON text

A scanner takes octets off the front of what is left.  When it stops, it names
the fault and the octets that follow the place the fault is charged to, from
which the line and the column are counted once, at the end.  What had been
taken stays taken: a record still looks for its closing bracket after one of
its fields has failed.
-/

namespace HostedCheckout.Json

/-- Why a scanner stopped.  A fault of the data is placed by whoever reads the
surrounding value. -/
structure Stop where
  fault : Fault
  place : Option Bytes
  path : List PathStep

/-- A scanner of octets. -/
abbrev Scan (α : Type) := ExceptT Stop (StateM Bytes) α

namespace Scan

/-- The next octet, left in its place. -/
def peek? : Scan (Option UInt8) := do
  return (← get).head?

/-- Take one octet. -/
def advance : Scan Unit :=
  modify fun rest => rest.drop 1

/-- Stop, charging the fault to the octets taken so far. -/
def fail {α : Type} (fault : Fault) : Scan α := do
  throw ⟨fault, some (← get), []⟩

/-- Stop, charging the fault to the next octet, or to the last one at the end. -/
def failAhead {α : Type} (fault : Fault) : Scan α := do
  throw ⟨fault, some ((← get).drop 1), []⟩

/-- Stop with a fault that is placed later. -/
def failUnplaced {α : Type} (fault : Fault) : Scan α :=
  throw ⟨fault, none, []⟩

/-- Run a scanner and look at how it ended. -/
def attempt {α : Type} (scanner : Scan α) : Scan (Except Stop α) := fun bytes =>
  let result := scanner bytes
  (.ok result.1, result.2)

/-- End as an earlier scanner ended. -/
def conclude {α : Type} : Except Stop α → Scan α
  | .ok value => pure value
  | .error stop => throw stop

/-- Place a fault that has no place yet at the octets taken so far. -/
def placed {α : Type} (scanner : Scan α) : Scan α := do
  match ← attempt scanner with
  | .ok value => pure value
  | .error stop =>
      match stop.place with
      | some _ => throw stop
      | none => throw { stop with place := some (← get) }

/-- Say in which part of a value a scanner stopped. -/
def within {α : Type} (step : PathStep) (scanner : Scan α) : Scan α := do
  match ← attempt scanner with
  | .ok value => pure value
  | .error stop => throw { stop with path := step :: stop.path }

/-- The four blanks of JSON. -/
def isBlank (octet : UInt8) : Bool :=
  octet == 0x20 || octet == 0x0A || octet == 0x09 || octet == 0x0D

/-- Take blanks. -/
def skipBlanks : Scan Unit :=
  modify fun rest => rest.dropWhile isBlank

/-- Take blanks, and look at what follows. -/
def peekToken? : Scan (Option UInt8) := do
  skipBlanks
  peek?

/-- Take the rest of a literal whose first letter has been taken. -/
def literal : Bytes → Scan Unit
  | [] => pure ()
  | expected :: more => do
      match ← peek? with
      | none => fail .endOfValue
      | some octet =>
          advance
          if octet = expected then literal more else fail .expectedLiteral

/-- Whether an octet is a decimal digit. -/
def isDigit (octet : UInt8) : Bool :=
  0x30 ≤ octet && octet ≤ 0x39

end Scan

/-- The line and column reached after a part of a text. -/
def Position.after (taken : Bytes) : Position :=
  let lastLine := (taken.reverse.takeWhile (· ≠ 0x0A)).length
  ⟨1 + taken.count 0x0A, lastLine⟩

/-- Run a scanner over a whole text. -/
def Scan.run {α : Type} (scanner : Scan α) (text : Bytes) : Except Error α :=
  match scanner text with
  | (.ok value, _) => .ok value
  | (.error stop, _) =>
      .error ⟨stop.fault,
        stop.place.map fun rest => .after (text.take (text.length - rest.length)),
        stop.path⟩

end HostedCheckout.Json
