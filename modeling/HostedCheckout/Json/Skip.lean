import HostedCheckout.Json.Reader

/-!
# Skipping values

The value of an unknown field is skipped.  Only its grammar is looked at: it
may be nested to any depth, its numbers may have any size, and its strings may
hold any octets.
-/

namespace HostedCheckout.Json.Scan

/-- Skip an exponent; its mark comes next. -/
def skipExponent : Scan Unit := do
  advance
  match ← peek? with
  | some 0x2B | some 0x2D => advance
  | _ => pure ()
  match ← peek? with
  | none => fail .invalidNumber
  | some octet => do
      advance
      if isDigit octet then skipDigits else fail .invalidNumber

/-- Skip an exponent if there is one. -/
def skipExponentIfAny : Scan Unit := do
  match ← peek? with
  | some 0x65 | some 0x45 => skipExponent
  | _ => pure ()

/-- Skip what follows the whole part of a number. -/
def skipNumberTail : Scan Unit := do
  match ← peek? with
  | some 0x2E => do
      advance
      match ← peek? with
      | some octet =>
          if isDigit octet then
            skipDigits
            skipExponentIfAny
          else failAhead .invalidNumber
      | none => failAhead .invalidNumber
  | _ => skipExponentIfAny

/-- Skip a number; its first octet is a digit or a minus sign. -/
def skipNumber : Scan Unit := do
  if (← peek?) = some 0x2D then advance
  match ← peek? with
  | none => fail .invalidNumber
  | some octet => do
      advance
      if octet = 0x30 then
        match ← peek? with
        | some next => if isDigit next then failAhead .invalidNumber else skipNumberTail
        | none => pure ()
      else if isDigit octet then do
        skipDigits
        skipNumberTail
      else fail .invalidNumber

/-- The bracket that a skipped part stands in. -/
inductive Frame where
  | array
  | object
  deriving DecidableEq

/-- Skip a key and its colon, if the next part is a member of an object. -/
def skipKey : Frame → Scan Unit
  | .array => pure ()
  | .object => do
      match ← peekToken? with
      | none => failAhead .endOfObject
      | some octet =>
          if octet = 0x22 then do
            advance
            skipString
            colon
          else failAhead .keyNotString

/-- Take the closing brackets that end after a part, up to the separator before
the next part.  The answer lists the brackets still open, innermost first. -/
def closeFrames : List Frame → Bool → Scan (List Frame)
  | [], _ => pure []
  | frame :: outer, afterPart => do
      match ← peekToken? with
      | none => failAhead (if frame = .array then .endOfList else .endOfObject)
      | some octet =>
          if afterPart ∧ octet = 0x2C then do
            advance
            return frame :: outer
          else if (frame = .array ∧ octet = 0x5D) ∨ (frame = .object ∧ octet = 0x7D) then do
            advance
            closeFrames outer true
          else if afterPart then
            failAhead (if frame = .array then .expectedElementSeparator
              else .expectedMemberSeparator)
          else return frame :: outer

/-- Skip one scalar, or take one opening bracket. -/
def skipPart : Scan (Option Frame) := do
  match ← peekToken? with
  | none => failAhead .endOfValue
  | some octet =>
      if beginsWord octet then do
        let _ ← word octet
        return none
      else if beginsNumber octet then do
        skipNumber
        return none
      else if octet = 0x22 then do
        advance
        skipString
        return none
      else if octet = 0x5B then do
        advance
        return some .array
      else if octet = 0x7B then do
        advance
        return some .object
      else failAhead .expectedValue

/-- Skip parts until no bracket is open. -/
def skipParts : Nat → List Frame → Scan Unit
  | 0, _ => pure ()
  | remaining + 1, frames => do
      let opened ← skipPart
      let stillOpen ← match opened with
        | some frame => closeFrames (frame :: frames) false
        | none => closeFrames frames true
      match stillOpen with
      | [] => pure ()
      | frame :: outer => do
          skipKey frame
          skipParts remaining (frame :: outer)

/-- Skip a value of any shape. -/
def skipValue : Scan Unit := do
  skipParts ((← get).length + 1) []

end HostedCheckout.Json.Scan
