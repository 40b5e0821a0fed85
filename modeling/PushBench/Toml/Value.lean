/-!
# TOML values

The values of a TOML document, which is a table.
-/

namespace PushBench

/-- A TOML value. -/
inductive Toml where
  | string (text : String)
  | integer (value : Int)
  | float (value : Float)
  | boolean (value : Bool)
  /-- A date, a time or both. Nothing asks for its parts. -/
  | moment
  | array (items : List Toml)
  | table (members : List (String × Toml))
  deriving Inhabited

end PushBench
