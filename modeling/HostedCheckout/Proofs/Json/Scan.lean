import HostedCheckout.Json.Numeral

/-!
# Running scanners

A scanner that is followed by another hands on what it leaves.  On a text whose next octet
is known, looking and taking are settled at once.
-/

namespace HostedCheckout.Json.Scan

variable {α β : Type} {bytes rest : Bytes} {octet : UInt8}

theorem bind_of_ok {first : Scan α} {next : α → Scan β} {value : α}
    (taken : first bytes = (.ok value, rest)) :
    (first >>= next : Scan β) bytes = next value rest := by
  simp only [bind, ExceptT.bind, ExceptT.mk, StateT.bind, taken]
  rfl

/-- A scanner that goes on with another has ended, and so has the other. -/
theorem exists_of_bind_ok {first : Scan α} {next : α → Scan β} {result : β}
    (taken : (first >>= next : Scan β) bytes = (.ok result, rest)) :
    ∃ value left, first bytes = (.ok value, left) ∧ next value left = (.ok result, rest) := by
  cases ran : first bytes with
  | mk outcome left =>
      cases outcome with
      | error stop =>
          simp only [bind, ExceptT.bind, ExceptT.mk, StateT.bind, ran] at taken
          cases taken
      | ok value =>
          rw [bind_of_ok ran] at taken
          exact ⟨value, left, rfl, taken⟩

theorem map_of_ok {scanner : Scan α} {value : α} (taken : scanner bytes = (.ok value, rest))
    (function : α → β) : (function <$> scanner : Scan β) bytes = (.ok (function value), rest) := by
  rw [map_eq_pure_bind, bind_of_ok taken]
  rfl

@[simp] theorem pure_eq (value : α) (bytes : Bytes) :
    (pure value : Scan α) bytes = (.ok value, bytes) := rfl

@[simp] theorem peek?_bind_nil (next : Option UInt8 → Scan α) :
    (peek? >>= next : Scan α) [] = next none [] := rfl

@[simp] theorem peek?_bind_cons (octet : UInt8) (rest : Bytes) (next : Option UInt8 → Scan α) :
    (peek? >>= next : Scan α) (octet :: rest) = next (some octet) (octet :: rest) := rfl

@[simp] theorem advance_bind_cons (octet : UInt8) (rest : Bytes) (next : Unit → Scan α) :
    (advance >>= next : Scan α) (octet :: rest) = next () rest := rfl

@[simp] theorem get_bind (bytes : Bytes) (next : Bytes → Scan α) :
    ((get : Scan Bytes) >>= next : Scan α) bytes = next bytes bytes := rfl

@[simp] theorem set_bind (bytes rest : Bytes) (next : PUnit → Scan α) :
    ((set rest : Scan PUnit) >>= next : Scan α) bytes = next ⟨⟩ rest := rfl

@[simp] theorem skipDigits_bind (bytes : Bytes) (next : Unit → Scan α) :
    (skipDigits >>= next : Scan α) bytes = next () (bytes.dropWhile isDigit) := rfl

theorem peekToken?_bind (bytes : Bytes) (next : Option UInt8 → Scan α) :
    (peekToken? >>= next : Scan α) bytes =
      next (bytes.dropWhile isBlank).head? (bytes.dropWhile isBlank) := rfl

/-- Looking for what comes next skips nothing where there is no blank. -/
theorem peekToken?_bind_cons (solid : isBlank octet = false) (rest : Bytes)
    (next : Option UInt8 → Scan α) :
    (peekToken? >>= next : Scan α) (octet :: rest) = next (some octet) (octet :: rest) := by
  have skipped : skipBlanks (octet :: rest) = (.ok (), octet :: rest) := by
    change (Except.ok (), (octet :: rest).dropWhile isBlank) = _
    rw [List.dropWhile_cons_of_neg (by simp [solid])]
  exact bind_of_ok (bind_of_ok skipped)

/-- A literal is taken off the front of a text that begins with it. -/
theorem literal_append (expected rest : Bytes) :
    literal expected (expected ++ rest) = (.ok (), rest) := by
  induction expected with
  | nil => rfl
  | cons octet more ih => simp [literal, ih]

/-- A text that is scanned to its end is read. -/
theorem run_of_ok {scanner : Scan α} {text : Bytes} {value : α}
    (taken : scanner text = (.ok value, rest)) : scanner.run text = .ok value := by
  rw [run, taken]

theorem exists_of_run_ok {scanner : Scan α} {text : Bytes} {value : α}
    (read : scanner.run text = .ok value) : ∃ rest, scanner text = (.ok value, rest) := by
  unfold run at read
  split at read
  · rename_i rest taken
    obtain rfl := Except.ok.inj read
    exact ⟨rest, taken⟩
  · cases read

end HostedCheckout.Json.Scan
