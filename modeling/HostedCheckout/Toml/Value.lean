import HostedCheckout.Decimal.Layout

/-!
# TOML values

A value is a scalar, an array, or a table.  Dates and times are kept as the
text that they are written in.
-/

namespace HostedCheckout.Toml

/-- A value of a TOML document. -/
inductive Value where
  | string (text : String)
  | integer (value : Int)
  | float (value : Binary64)
  | boolean (value : Bool)
  | moment (text : String)
  | array (items : List Value)
  | table (entries : List (String × Value))

/-- The entries of a table. -/
abbrev Entries := List (String × Value)

end HostedCheckout.Toml
