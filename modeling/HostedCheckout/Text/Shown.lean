/-!
# Records in diagnostics

A diagnostic shows a record by its name and, in braces, its fields in order.
-/

namespace HostedCheckout.Text

/-- A field of a record and its value. -/
def shownField (field : String × String) : String :=
  field.1 ++ ": " ++ field.2

/-- A record with at least one field. -/
def shownRecord (name : String) (fields : List (String × String)) : String :=
  name ++ " \x7b " ++ String.intercalate ", " (fields.map shownField) ++ " \x7d"

end HostedCheckout.Text
