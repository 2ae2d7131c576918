import HostedCheckout.Json.Value

/-!
# Looking up members

What is found under a name when a member has been put in front of the others,
behind them, or where its key belongs.
-/

namespace HostedCheckout

/-- A lookup compares the first name. -/
theorem lookup_cons_eq {α : Type} (name key : String) (value : α) (members : List (String × α)) :
    ((key, value) :: members).lookup name =
      if name = key then some value else members.lookup name := by
  rw [List.lookup_cons]
  by_cases same : name = key
  · rw [if_pos same, beq_iff_eq.mpr same]
  · rw [if_neg same, beq_eq_false_iff_ne.mpr same]

namespace Json

/-- The inserted member is found under its key, and the others as before. -/
theorem Members.lookup_insert (key other : String) (value : Value) (members : Members) :
    (Members.insert key value members).lookup other =
      if other = key then some value else members.lookup other := by
  induction members with
  | nil => rw [Members.insert, lookup_cons_eq, List.lookup_nil]
  | cons member rest ih =>
      obtain ⟨held, old⟩ := member
      rw [Members.insert]
      split
      · rename_i replaced
        subst replaced
        rw [lookup_cons_eq, lookup_cons_eq]
        split <;> rfl
      · split
        · rw [lookup_cons_eq]
        · rename_i others _
          rw [lookup_cons_eq, ih, lookup_cons_eq]
          by_cases same : other = held
          · rw [if_pos same, if_neg (same ▸ fun equal => others equal.symm), if_pos same]
          · rw [if_neg same, if_neg same]

theorem lookup_append_singleton (members : Members) (name other : String) (value : Value) :
    (members ++ [(name, value)]).lookup other =
      (members.lookup other).or (if other = name then some value else none) := by
  rw [List.lookup_append, lookup_cons_eq, List.lookup_nil]

end Json

end HostedCheckout
