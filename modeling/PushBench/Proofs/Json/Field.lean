import Mathlib.Data.List.TakeWhile
import PushBench.Json.Field
import PushBench.Proofs.Json.Grammar

/-!
# Fields that are read back

What a value is written as is understood as that value again, and a record finds the fields that it
was written with, whatever other members stand behind them.
-/

namespace PushBench.Json

/-! ## Written values are proper -/

theorem isProper_ofNat (count : Nat) : IsProper (.ofNat count) :=
  .unsigned (isUnsigned_whole (isWhole_toDigits count))

theorem isProper_ofFloat (x : Float) : IsProper (.ofFloat x) := by
  unfold ofFloat
  split
  case isTrue hx => exact isNumber_text .json hx
  case isFalse => trivial

theorem isProper_string (text : String) : IsProper (.string text) := trivial

theorem isProper_ofOption {α : Type} {encode : α → Json} (h : ∀ value, IsProper (encode value))
    (value? : Option α) : IsProper (.ofOption encode value?) := by
  cases value? with
  | none => trivial
  | some value => exact h value

theorem areProper_map {α : Type} {encode : α → Json} (h : ∀ value, IsProper (encode value))
    (values : List α) : AreProper (values.map encode) := by
  induction values with
  | nil => trivial
  | cons value values ih => exact ⟨h value, ih⟩

/-! ## Counts -/

theorem countBelow_ofNat {limit count : Nat} (hcount : count < limit) :
    countBelow limit (.ofNat count) = some count := by
  have hdigits : (Decimal.toDigits count).all Char.isDigit = true :=
    List.all_eq_true.mpr (Decimal.areDigits_toDigits count).isDigit
  simp [countBelow, ofNat, hdigits, hcount]

theorem le_foldl_digits (digits : List Char) (value : Nat) :
    value ≤ digits.foldl (fun number c ↦ 10 * number + Decimal.digitValue c) value := by
  induction digits generalizing value with
  | nil => exact Nat.le_refl value
  | cons digit digits ih =>
    exact Nat.le_trans (by omega) (ih (10 * value + Decimal.digitValue digit))

/-- Digits of a number of sixty-four bits are all taken in. -/
theorem takeWhole_eq {digits : List Char} {value : Nat} (exponent : Int)
    (hfits : digits.foldl (fun number c ↦ 10 * number + Decimal.digitValue c) value ≤
      Binary64.countLimit) :
    Significand.takeWhole ⟨value, exponent⟩ digits =
      ⟨digits.foldl (fun number c ↦ 10 * number + Decimal.digitValue c) value, exponent⟩ := by
  induction digits generalizing value with
  | nil => rfl
  | cons digit digits ih =>
    have hdigit : Significand.fits ⟨value, exponent⟩ digit = true :=
      decide_eq_true (Nat.le_trans (le_foldl_digits digits _) hfits)
    rw [Significand.takeWhole, if_pos hdigit]
    exact ih hfits

theorem unsignedFloat_toDigits {count : Nat} (hcount : count < 2 ^ 64) :
    unsignedFloat (Decimal.toDigits count) = scaleByTen 3 (Float.ofNat count) 0 := by
  have hdigits := (Decimal.areDigits_toDigits count).isDigit
  have htake := List.takeWhile_eq_self_iff.mpr hdigits
  have hdrop := List.dropWhile_eq_nil_iff.mpr hdigits
  have hvalue := Decimal.ofDigits_toDigits count
  unfold Decimal.ofDigits at hvalue
  have hlimit : count ≤ Binary64.countLimit := Nat.le_pred_of_lt hcount
  have hwhole : Significand.takeWhole ⟨0, 0⟩ (Decimal.toDigits count) = ⟨count, 0⟩ := by
    rw [takeWhole_eq 0 (by rwa [hvalue]), hvalue]
  simp only [unsignedFloat, htake, hdrop, hwhole]
  rfl

/-- A count is a number that a double can stand for. -/
theorem isSome_asFloat_ofNat {count : Nat} (hcount : count < 2 ^ 64) :
    (asFloat (.ofNat count)).isSome = true := by
  have hone : Binary64.IsBounded (-52) (powerOfTen 0) := by decide +kernel
  have hscaled := (Binary64.isBounded_ofNat hcount).mul hone (by decide) (by decide)
  have hfinite := Binary64.isInf_of_isFinite hscaled.isFinite
  have hread : asFloat (.ofNat count) = unsignedFloat (Decimal.toDigits count) := by
    obtain ⟨c, tail, htext, hc⟩ := head_of_areDigits (Decimal.areDigits_toDigits count)
    have hsign : c ≠ '-' := by rintro rfl; revert hc; decide
    rw [ofNat, htext]
    simp [asFloat, hsign]
  rw [hread, unsignedFloat_toDigits hcount]
  simp [scaleByTen, hfinite]

/-! ## Lists and records -/

theorem asList_map {α : Type} {encode : α → Json} {decode : Json → Option α} {values : List α}
    (h : ∀ value ∈ values, decode (encode value) = some value) :
    asList decode (.array (values.map encode)) = some values := by
  unfold asList
  dsimp only
  induction values with
  | nil => rfl
  | cons value values ih =>
    have hrest := ih fun other hother ↦ h other (List.mem_cons_of_mem value hother)
    simp [h value List.mem_cons_self, hrest]

theorem orNull_eq_some {α : Type} {decode : Json → Option α} (hnull : decode .null = none)
    {json : Json} {value : α} (h : decode json = some value) :
    orNull decode json = some (some value) := by
  unfold orNull
  split
  case h_1 => rw [hnull] at h; cases h
  case h_2 => rw [h, Option.map_some]

theorem orNull_ofOption {α : Type} {encode : α → Json} {decode : Json → Option α}
    (hnull : decode .null = none) {value? : Option α}
    (h : ∀ value ∈ value?, decode (encode value) = some value) :
    orNull decode (.ofOption encode value?) = some value? := by
  cases value? with
  | none => rfl
  | some value => exact orNull_eq_some hnull (h value rfl)

theorem orNull_asString (text? : Option String) :
    orNull asString (.ofOption .string text?) = some text? :=
  orNull_ofOption rfl fun _ _ ↦ rfl

/-- A record that starts with all fields of given names finds them. -/
theorem fields_object_append {names : List String} {known more : List (String × Json)}
    (hnames : known.map Prod.fst = names) (hnodup : names.Nodup)
    (hmore : ∀ member ∈ more, member.1 ∉ names) :
    (Json.object (known ++ more)).fields names = some ⟨false, known⟩ := by
  subst hnames
  have hknown : ∀ member ∈ known, (known.map Prod.fst).contains member.1 = true :=
    fun member hmember ↦ List.contains_iff_mem.mpr (List.mem_map_of_mem hmember)
  have hothers : ∀ member ∈ more, ¬ (known.map Prod.fst).contains member.1 = true :=
    fun member hmember hcontains ↦
      hmore member hmember (List.contains_iff_mem.mp hcontains)
  simp only [fields, List.filter_append, List.filter_eq_self.mpr hknown,
    List.filter_eq_nil_iff.mpr hothers, List.append_nil]
  rw [if_pos hnodup]

theorem fields_object {names : List String} {known : List (String × Json)}
    (hnames : known.map Prod.fst = names) (hnodup : names.Nodup) :
    (Json.object known).fields names = some ⟨false, known⟩ := by
  have hmore : ∀ member ∈ ([] : List (String × Json)), member.1 ∉ names := by simp
  simpa using fields_object_append hnames hnodup hmore

/-- A decoder goes on with what its first step yields. -/
theorem bind_eq_some_of {α β : Type} {step : Option α} {next : α → Option β} {value : α}
    {result : β} (hstep : step = some value) (hnext : next value = some result) :
    step >>= next = some result := by
  rw [hstep]
  exact hnext

namespace Fields

variable {α β : Type} {fields : Fields} {name : String} {json : Json} {decode : Json → Option α}
  {result : β}

theorem bind_required {value : α} {next : α → Option β} (hfind : fields.find? name = some json)
    (hread : decode json = some value) (hnext : next value = some result) :
    fields.required name decode >>= next = some result := by
  have hstep : fields.required name decode = some value := by
    rw [required, hfind, Option.bind_some, hread]
  exact bind_eq_some_of hstep hnext

theorem bind_optional {value? : Option α} {next : Option α → Option β}
    (hfind : fields.find? name = some json) (hread : orNull decode json = some value?)
    (hnext : next value? = some result) : fields.optional name decode >>= next = some result := by
  have hstep : fields.optional name decode = some value? := by rw [optional, hfind]; exact hread
  exact bind_eq_some_of hstep hnext

end Fields

end PushBench.Json
