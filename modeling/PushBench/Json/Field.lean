import PushBench.Json.Value

/-!
# Fields of JSON records

How single values are understood, and how the fields of a record are found. A record is an object,
in which unknown members are passed over and a known member must not be repeated, or an array of its
fields in order.
-/

namespace PushBench.Json

/-! ## Numbers -/

/-- A count below `limit`: digits without sign, point or exponent. -/
def countBelow (limit : Nat) : Json → Option Nat
  | .number literal =>
    if literal.all Char.isDigit && decide (Decimal.ofDigits literal < limit) then
      some (Decimal.ofDigits literal)
    else none
  | _ => none

/-- A count of sixty-four bits. -/
def asCount : Json → Option Nat := countBelow (twoPow 64)

/-- A count of thirty-two bits. -/
def asShortCount : Json → Option Nat := countBelow (twoPow 32)

/-- A decimal significand of at most sixty-four bits and its power of ten. -/
structure Significand where
  value : Nat
  exponent : Int

/-- Whether one more digit fits. -/
def Significand.fits (significand : Significand) (digit : Char) : Bool :=
  decide (10 * significand.value + Decimal.digitValue digit ≤ Binary64.countLimit)

/-- Takes in the digits before the point. Those after the first that does not fit only count. -/
def Significand.takeWhole (significand : Significand) : List Char → Significand
  | [] => significand
  | digit :: rest =>
    if significand.fits digit then
      takeWhole
        { significand with value := 10 * significand.value + Decimal.digitValue digit } rest
    else { significand with exponent := significand.exponent + (rest.length + 1 : Nat) }

/-- Takes in the digits after the point, up to the first that does not fit. -/
def Significand.takeFraction (significand : Significand) : List Char → Significand
  | [] => significand
  | digit :: rest =>
    if significand.fits digit then
      takeFraction
        ⟨10 * significand.value + Decimal.digitValue digit, significand.exponent - 1⟩ rest
    else significand

/-- A power of ten as a double. -/
def powerOfTen (exponent : Nat) : Float := Float.ofScientific 1 false exponent

/-- A double times a power of ten, with one multiplication or division by each power of at most
`10 ^ 308` that is needed; there is no answer if the product is infinite. After three divisions by
`10 ^ 308` nothing is left of a double. -/
def scaleByTen : Nat → Float → Int → Option Float
  | 0, x, _ => some (x * 0.0)
  | steps + 1, x, exponent =>
    if exponent.natAbs ≤ 308 then
      if exponent < 0 then some (x / powerOfTen exponent.natAbs)
      else
        let scaled := x * powerOfTen exponent.natAbs
        if scaled.isInf then none else some scaled
    else if x == 0.0 then some x
    else if exponent < 0 then scaleByTen steps (x / powerOfTen 308) (exponent + 308)
    else none

/-- The exponent that follows the digits of a number: nothing, or a mark, a sign and digits. -/
def exponentOf : List Char → Int
  | _ :: '-' :: digits => -(Decimal.ofDigits digits : Int)
  | _ :: '+' :: digits => (Decimal.ofDigits digits : Int)
  | _ :: digits => (Decimal.ofDigits digits : Int)
  | [] => 0

/-- The double that an unsigned number stands for: its leading digits as far as they fit into
sixty-four bits, scaled by a power of ten. -/
def unsignedFloat (literal : List Char) : Option Float :=
  let whole := literal.takeWhile Char.isDigit
  let rest := literal.dropWhile Char.isDigit
  let (fraction, rest) :=
    match rest with
    | '.' :: rest => (rest.takeWhile Char.isDigit, rest.dropWhile Char.isDigit)
    | rest => ([], rest)
  let significand := (Significand.takeWhole ⟨0, 0⟩ whole).takeFraction fraction
  scaleByTen 3 (Float.ofNat significand.value) (significand.exponent + exponentOf rest)

/-- A number as a double. -/
def asFloat : Json → Option Float
  | .number ('-' :: literal) => (unsignedFloat literal).map (-·)
  | .number literal => unsignedFloat literal
  | _ => none

/-! ## Other values -/

/-- A text. -/
def asString : Json → Option String
  | .string text => some text
  | _ => none

/-- A truth value. -/
def asBool : Json → Option Bool
  | .bool value => some value
  | _ => none

/-- A value or `null`. -/
def orNull {α : Type} (decode : Json → Option α) : Json → Option (Option α)
  | .null => some none
  | value => (decode value).map some

/-- The items of an array. -/
def asList {α : Type} (decode : Json → Option α) : Json → Option (List α)
  | .array items => items.mapM decode
  | _ => none

/-- Whether a value is `null`. -/
def isNull : Json → Bool
  | .null => true
  | _ => false

/-- A choice that is named by a text, or by an object whose only member has that name and a value
that `isUnit` accepts. -/
def asChoice {α : Type} (isUnit : Json → Bool) (choose : String → Option α) :
    Json → Option α
  | .string name => choose name
  | .object [(name, value)] => if isUnit value then choose name else none
  | _ => none

/-! ## Records -/

/-- The fields that were found. -/
structure Fields where
  /-- Whether the record was an array. -/
  positional : Bool
  members : List (String × Json)

/-- The fields of a record with given names. -/
def fields (names : List String) : Json → Option Fields
  | .object members =>
    let known := members.filter fun member ↦ names.contains member.1
    if (known.map Prod.fst).Nodup then some ⟨false, known⟩ else none
  | .array items =>
    if items.length ≤ names.length then some ⟨true, names.zip items⟩ else none
  | _ => none

namespace Fields

variable {α : Type}

/-- The value of a field, if it is there. -/
def find? (fields : Fields) (name : String) : Option Json := fields.members.lookup name

/-- A field that has to be there. -/
def required (fields : Fields) (name : String) (decode : Json → Option α) : Option α :=
  (fields.find? name).bind decode

/-- A field that may be `null`, and that may be missing from an object. -/
def optional (fields : Fields) (name : String) (decode : Json → Option α) : Option (Option α) :=
  match fields.find? name with
  | some value => orNull decode value
  | none => if fields.positional then none else some none

/-- A field that has a default. -/
def defaulted (fields : Fields) (name : String) (default : α) (decode : Json → Option α) :
    Option α :=
  match fields.find? name with
  | some value => decode value
  | none => some default

end Fields

end PushBench.Json
