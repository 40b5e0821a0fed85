import PushBench.Toml.Value
import PushBench.Number.Power

/-!
# Fields of TOML records

How single values are understood, and how the fields of a record are found. A record is a table, in
which unknown members are passed over, or an array of its fields in order, of which those at the end
may be missing. A date counts as a record of which all fields are missing.
-/

namespace PushBench.Toml

/-- A count below `limit`. -/
def countBelow (limit : Nat) : Toml → Option Nat
  | .integer value => if 0 ≤ value ∧ value < limit then some value.toNat else none
  | _ => none

/-- A count of sixty-four bits. -/
def asCount : Toml → Option Nat := countBelow (twoPow 64)

/-- A count of thirty-two bits. -/
def asShortCount : Toml → Option Nat := countBelow (twoPow 32)

/-- A number as a double. -/
def asFloat : Toml → Option Float
  | .float value => some value
  | .integer value => some (Float.ofInt value)
  | _ => none

/-- A text. -/
def asString : Toml → Option String
  | .string text => some text
  | _ => none

/-- The fields that were found. -/
abbrev Fields := List (String × Toml)

/-- The fields of a record with given names. -/
def fields (names : List String) : Toml → Option Fields
  | .table members => some members
  | .array items => some (names.zip items)
  | .moment => some []
  | _ => none

/-- A field that has a default. -/
def Fields.defaulted {α : Type} (fields : Fields) (name : String) (default : α)
    (decode : Toml → Option α) : Option α :=
  match fields.lookup name with
  | some value => decode value
  | none => some default

end PushBench.Toml
