import HostedCheckout.Json.Scan

/-!
# Reading strings

The octets of a string are read one at a time by a machine whose mode says
what an escape still owes.  Escapes are judged as soon as their last octet is
taken; that the string is UTF-8 is judged once its closing quote is reached,
and a fault is then charged to the first octet of the broken run.
-/

namespace HostedCheckout.Json

/-- What the octets before the current one have announced. -/
inductive StringMode where
  /-- Ordinary content. -/
  | plain
  /-- A backslash was taken. -/
  | escape
  /-- `\u` and some of its four digits were taken; the first half of a surrogate
  pair may stand before it. -/
  | hex (high : Option Nat) (digits : Bytes)
  /-- The first half of a surrogate pair was taken. -/
  | pair (high : Nat)
  /-- The first half of a surrogate pair and a backslash were taken. -/
  | pairEscape (high : Nat)

/-- How the reading of a string ended. -/
inductive StringEnd where
  | closed (content rest : Bytes)
  | stopped (fault : Fault) (rest : Bytes)

/-- The octet that a short escape stands for. -/
def shortEscape? (letter : UInt8) : Option UInt8 :=
  if letter = 0x22 ∨ letter = 0x5C ∨ letter = 0x2F then some letter
  else if letter = 0x62 then some 0x08
  else if letter = 0x66 then some 0x0C
  else if letter = 0x6E then some 0x0A
  else if letter = 0x72 then some 0x0D
  else if letter = 0x74 then some 0x09
  else none

/-- The value of a hexadecimal digit. -/
def hexValue? (octet : UInt8) : Option Nat :=
  if 0x30 ≤ octet ∧ octet ≤ 0x39 then some (octet.toNat - 0x30)
  else if 0x41 ≤ octet ∧ octet ≤ 0x46 then some (octet.toNat - 0x37)
  else if 0x61 ≤ octet ∧ octet ≤ 0x66 then some (octet.toNat - 0x57)
  else none

/-- The number that four hexadecimal digits spell. -/
def hexNumber? (digits : Bytes) : Option Nat :=
  digits.foldlM (fun value octet => (hexValue? octet).map (value * 16 + ·)) 0

/-- First halves of surrogate pairs. -/
def isHighSurrogate (point : Nat) : Bool := 0xD800 ≤ point && point ≤ 0xDBFF

/-- Second halves of surrogate pairs. -/
def isLowSurrogate (point : Nat) : Bool := 0xDC00 ≤ point && point ≤ 0xDFFF

/-- The octets of a code point. -/
def pointOctets (point : Nat) : Bytes :=
  String.utf8EncodeChar (Char.ofNat point)

/-- Judge four hexadecimal digits: the octets they add and the mode they leave. -/
def judgeHex (high : Option Nat) (digits : Bytes) : Except Fault (Bytes × StringMode) :=
  match hexNumber? digits, high with
  | none, _ => .error .invalidEscape
  | some point, some first =>
      if isLowSurrogate point then
        .ok (pointOctets (0x10000 + (first - 0xD800) * 0x400 + (point - 0xDC00)), .plain)
      else .error .loneSurrogate
  | some point, none =>
      if isLowSurrogate point then .error .loneSurrogate
      else if isHighSurrogate point then .ok ([], .pair point)
      else .ok (pointOctets point, .plain)

/-- Judge one octet: the octets it adds and the mode it leaves.  A quote in
ordinary content is not judged here, for it closes the string. -/
def judgeOctet : StringMode → UInt8 → Except Fault (Bytes × StringMode)
  | .plain, octet =>
      if octet = 0x5C then .ok ([], .escape)
      else if octet < 0x20 then .error .controlCharacter
      else .ok ([octet], .plain)
  | .escape, octet =>
      if octet = 0x75 then .ok ([], .hex none [])
      else match shortEscape? octet with
        | some meant => .ok ([meant], .plain)
        | none => .error .invalidEscape
  | .hex high digits, octet =>
      let digits := digits ++ [octet]
      if digits.length < 4 then .ok ([], .hex high digits) else judgeHex high digits
  | .pair high, octet =>
      if octet = 0x5C then .ok ([], .pairEscape high) else .error .unfinishedPair
  | .pairEscape high, octet =>
      if octet = 0x75 then .ok ([], .hex (some high) []) else .error .unfinishedPair

/-- Whether an octet closes the string. -/
def StringMode.closes : StringMode → UInt8 → Bool
  | .plain, octet => octet == 0x22
  | _, _ => false

/-- Read up to the closing quote; `taken` holds the content so far, last octet
first. -/
def stringBody (mode : StringMode) (taken : Bytes) : Bytes → StringEnd
  | [] => .stopped .endOfString []
  | octet :: rest =>
      if mode.closes octet then .closed taken.reverse rest
      else match judgeOctet mode octet with
        | .error fault => .stopped fault rest
        | .ok (added, next) => stringBody next (added.reverse ++ taken) rest

/-- Take a string whose opening quote has been taken. -/
def Scan.string : Scan String := do
  let start ← get
  match stringBody .plain [] start with
  | .stopped fault rest => do
      set rest
      fail fault
  | .closed content rest => do
      set rest
      match content.toString? with
      | some text => pure text
      | none => throw ⟨.invalidCodePoint, some (start.drop (Utf8.validLength start + 1)), []⟩

/-- Skip a string whose opening quote has been taken.  Escapes have to be well
formed, but may spell anything, and a control character is not taken. -/
def skippedString (mode : StringMode) : Bytes → StringEnd
  | [] => .stopped .endOfString []
  | octet :: rest =>
      match mode with
      | .escape =>
          if octet = 0x75 then skippedString (.hex none []) rest
          else if (shortEscape? octet).isSome then skippedString .plain rest
          else .stopped .invalidEscape rest
      | .hex high digits =>
          let digits := digits ++ [octet]
          if digits.length < 4 then skippedString (.hex high digits) rest
          else if (hexNumber? digits).isSome then skippedString .plain rest
          else .stopped .invalidEscape rest
      | _ =>
          if octet = 0x22 then .closed [] rest
          else if octet = 0x5C then skippedString .escape rest
          else if octet < 0x20 then .stopped .controlCharacter (octet :: rest)
          else skippedString .plain rest

/-- Skip a string whose opening quote has been taken. -/
def Scan.skipString : Scan Unit := do
  match skippedString .plain (← get) with
  | .stopped fault rest => do
      set rest
      fail fault
  | .closed _ rest => set rest

end HostedCheckout.Json
