import Kiosk.Decimal.Double

/-!
# TOML values

The values a TOML document is made of. A table keeps its entries in the order in
which the document introduces them, and its keys are distinct.
-/

namespace Kiosk.Toml

/-- A TOML value. -/
inductive Value where
  | string (s : String)
  | integer (n : Int)
  | float (x : Double)
  | boolean (b : Bool)
  /-- A date, a time, or both. Which one is of no use to this library and not kept. -/
  | datetime
  | array (items : List Value)
  | table (entries : List (String × Value))
  deriving Repr, Inhabited

/-- The entries of a table. -/
abbrev Entries := List (String × Value)

end Kiosk.Toml
