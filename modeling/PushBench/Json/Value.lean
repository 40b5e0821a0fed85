import PushBench.Number.Style

/-!
# JSON values

The values that JSON text spells. Numbers keep their spelling, so that how a number is understood is
up to the field it is read for; objects keep the order of their members.
-/

namespace PushBench

/-- A JSON value. -/
inductive Json where
  | null
  | bool (value : Bool)
  /-- A number as it is spelled. -/
  | number (literal : List Char)
  | string (text : String)
  /-- A string with half of a surrogate pair in it, which is no text. -/
  | unpaired
  | array (items : List Json)
  | object (members : List (String × Json))
  deriving Repr, Inhabited

namespace Json

/-- A count. -/
def ofNat (count : Nat) : Json := .number (Decimal.toDigits count)

/-- A double. What is not finite is written as `null`. -/
def ofFloat (x : Float) : Json :=
  if x.isFinite then .number (NumberStyle.json.text x) else .null

/-- A value, or `null`. -/
def ofOption {α : Type} (encode : α → Json) : Option α → Json
  | some value => encode value
  | none => .null

end Json

end PushBench
