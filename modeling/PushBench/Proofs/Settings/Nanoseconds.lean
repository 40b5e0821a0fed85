import PushBench.Proofs.Settings.Duration

/-!
# Durations of whole nanoseconds

A literal and a unit that make up whole nanoseconds are read as these or as one less, since a
product that rounding left below them is rounded down. From `2 ^ 52` nanoseconds on it may be one
more as well. What is a double itself is read without error.
-/

namespace PushBench

open Binary64

/-! ## Literals before units -/

section Literal

variable {text : List Char} {x : Decimal}

theorem Decimal.Spells.mem (h : Spells text x) : ∀ c ∈ text, c.isDigit = true ∨ c = '.' := by
  cases h with
  | whole hdigits => exact fun c hc ↦ .inl (hdigits.isDigit c hc)
  | point hdigits =>
    intro c hc
    rw [List.mem_append, List.mem_cons] at hc
    rcases hc with hc | hc | hc
    · exact .inl (hdigits.isDigit c (List.mem_append_left _ hc))
    · exact .inr hc
    · exact .inl (hdigits.isDigit c (List.mem_append_right _ hc))

/-- What literals consist of is neither white space nor alphabetic. -/
theorem Decimal.Spells.plain (h : Spells text x) :
    ∀ c ∈ text, isBlank c = false ∧ isAlphabetic c = false := by
  have htable : ∀ code < 58, 46 ≤ code →
      memRanges blankChanges code = false ∧ memRanges alphabeticChanges code = false := by decide
  intro c hc
  rcases h.mem c hc with hdigit | rfl
  · have hbounds : 48 ≤ c.toNat ∧ c.toNat ≤ 57 := Char.isDigit_iff_toNat.mp hdigit
    exact htable c.toNat (by omega) (by omega)
  · exact htable 46 (by decide) (by decide)

end Literal

namespace TimeUnit

variable {unit : TimeUnit}

theorem lowercase_name :
    ∀ name ∈ unit.names, String.ofList (lowercase name.toList) = name := by
  cases unit <;> decide +kernel

theorem trimEnd_name : ∀ name ∈ unit.names, trimEnd name.toList = name.toList := by
  cases unit <;> decide +kernel

theorem isAlphabetic_head_name :
    ∀ name ∈ unit.names, name.toList.head?.any isAlphabetic = true := by
  cases unit <;> decide +kernel

end TimeUnit

namespace Duration

variable {literal : List Char} {number : Decimal} {name : String} {unit : TimeUnit}

theorem isSplit_literal_append (hliteral : number.Spells literal) (hname : name ∈ unit.names) :
    IsSplit (trim (literal ++ name.toList)) literal name.toList := by
  have halphabetic := TimeUnit.isAlphabetic_head_name name hname
  have htrim := TimeUnit.trimEnd_name name hname
  cases hcons : name.toList with
  | nil =>
    rw [hcons] at halphabetic
    cases halphabetic
  | cons c rest =>
    rw [hcons] at halphabetic htrim
    have hsplit := @isSplit_trim literal rest c (fun d hd ↦ (hliteral.plain d hd).2) halphabetic
    rwa [trimStart_eq_self fun d hd ↦ (hliteral.plain d hd).1, htrim] at hsplit

/-- What a literal and the name of a unit spell. -/
theorem spells_literal_append {x product : Float} (hliteral : number.Spells literal)
    (hname : name ∈ unit.names) (hx : IsNearest number.value x) (hfinite : x.isFinite = true)
    (hproduct : IsNearest (value x * unit.nanoseconds) product) :
    Spells (literal ++ name.toList) (truncated product) := by
  have hnumeral : IsNumeral (trim literal) number.value := by
    rw [trim_eq_self fun c hc ↦ (hliteral.plain c hc).1]
    exact .plain hliteral
  have hmeans : Means name.toList unit := by
    refine .name ?_
    rwa [TimeUnit.lowercase_name name hname]
  exact .intro (isSplit_literal_append hliteral hname) hnumeral hmeans hx hfinite
    (hx.value_nonneg number.value_nonneg hfinite) hproduct

end Duration

/-! ## Products near whole numbers -/

namespace Binary64

variable {number : ℚ} {factor whole : Nat} {x product : Float}

/-- A double times a whole number. Without rounding the product would be a whole number. -/
structure IsProduct (number : ℚ) (factor whole : Nat) (x product : Float) : Prop where
  nearest : IsNearest number x
  nearest_product : IsNearest (value x * factor) product
  mul_eq : number * factor = whole
  factor_pos : 0 < factor
  factor_lt : factor < 2 ^ 53
  whole_lt : whole < 2 ^ 53

namespace IsProduct

variable (h : IsProduct number factor whole x product)

include h

theorem cast_lt : (whole : ℚ) < 2 ^ 53 := by exact_mod_cast h.whole_lt

theorem number_eq : number = whole / factor := by
  rw [eq_div_iff (Nat.cast_ne_zero.mpr (Nat.ne_of_gt h.factor_pos))]
  exact h.mul_eq

theorem number_nonneg : 0 ≤ number := by
  rw [h.number_eq]
  positivity

theorem number_le : number ≤ whole := by
  rw [← h.mul_eq]
  exact le_mul_of_one_le_right h.number_nonneg (Nat.one_le_cast.mpr h.factor_pos)

theorem isFinite : x.isFinite = true := by
  refine h.nearest.isFinite_of_lt h.number_nonneg ?_
  linarith [h.number_le, h.cast_lt]

/-- The product of the rounded number is near the whole number. -/
theorem abs_sub_le : |(whole : ℚ) - value x * factor| ≤ whole / 2 ^ 53 := by
  have hfactor : (0 : ℚ) < factor := Nat.cast_pos.mpr h.factor_pos
  rcases Nat.eq_zero_or_pos whole with hzero | hpos
  · -- the bound on relative errors does not hold for zero, which is a double itself
    have hnumber : number = value 0.0 := by
      rw [h.number_eq, hzero, Nat.cast_zero, zero_div, value_zero]
    have hnearest := h.nearest
    rw [hnumber] at hnearest
    rw [hnearest.value_eq_self h.isFinite isFinite_zero,
      ← hnumber, h.mul_eq, sub_self, abs_zero]
    positivity
  · have hlower : 2 ^ (-900 : ℤ) ≤ number := calc
      (2 : ℚ) ^ (-900 : ℤ) ≤ 2 ^ (-53 : ℤ) := zpow_le_zpow_right₀ one_le_two (by decide)
      _ = 1 / 2 ^ 53 := by rw [zpow_neg, one_div]; rfl
      _ ≤ 1 / factor := one_div_le_one_div_of_le hfactor (by exact_mod_cast h.factor_lt.le)
      _ ≤ whole / factor := div_le_div_of_nonneg_right (Nat.one_le_cast.mpr hpos) hfactor.le
      _ = number := h.number_eq.symm
    have hupper : number < 2 ^ (900 : ℤ) := calc
      number ≤ whole := h.number_le
      _ < 2 ^ 53 := h.cast_lt
      _ = 2 ^ (53 : ℤ) := rfl
      _ ≤ 2 ^ (900 : ℤ) := zpow_le_zpow_right₀ one_le_two (by decide)
    have herror := h.nearest.abs_sub_le h.isFinite hlower hupper
    have hproduct := mul_le_mul_of_nonneg_right herror hfactor.le
    rwa [← abs_of_pos hfactor, ← abs_mul, abs_of_pos hfactor, sub_mul, h.mul_eq,
      div_mul_eq_mul_div, h.mul_eq] at hproduct

theorem abs_sub_lt_one : |(whole : ℚ) - value x * factor| < 1 :=
  h.abs_sub_le.trans_lt ((div_lt_one (by positivity)).mpr h.cast_lt)

theorem sub_one_lt : (whole : ℚ) - 1 < value x * factor := by
  linarith [(abs_lt.mp h.abs_sub_lt_one).2]

theorem lt_add_one : value x * factor < whole + 1 := by
  linarith [(abs_lt.mp h.abs_sub_lt_one).1]

theorem value_mul_nonneg : 0 ≤ value x * factor :=
  mul_nonneg (h.nearest.value_nonneg h.number_nonneg h.isFinite) (Nat.cast_nonneg factor)

theorem isFinite_product : product.isFinite = true := by
  refine h.nearest_product.isFinite_of_lt h.value_mul_nonneg ?_
  linarith [h.lt_add_one, h.cast_lt]

theorem value_product_nonneg : 0 ≤ value product :=
  h.nearest_product.value_nonneg h.value_mul_nonneg h.isFinite_product

theorem value_product_le : value product ≤ whole + 1 := by
  obtain ⟨y, hy, hvalue⟩ := exists_value_eq_natCast (Nat.succ_le_of_lt h.whole_lt)
  rw [Nat.cast_succ] at hvalue
  rw [← hvalue]
  exact h.nearest_product.value_le h.isFinite_product hy (hvalue ▸ h.lt_add_one.le)

theorem le_value_product : (whole : ℚ) - 1 ≤ value product := by
  rcases Nat.eq_zero_or_pos whole with rfl | hpos
  · rw [Nat.cast_zero]
    linarith [h.value_product_nonneg]
  · obtain ⟨y, hy, hvalue⟩ := exists_value_eq_natCast ((Nat.sub_le whole 1).trans h.whole_lt.le)
    rw [Nat.cast_sub hpos, Nat.cast_one] at hvalue
    rw [← hvalue]
    exact h.nearest_product.le_value h.isFinite_product hy (hvalue ▸ h.sub_one_lt.le)

/-- Halves are doubles below `2 ^ 52`, so that less than a half is not rounded up to one. -/
theorem value_product_le_add_half (hsmall : whole < 2 ^ 52) : value product ≤ whole + 1 / 2 := by
  obtain ⟨y, hy, hvalue⟩ := exists_value_eq (by omega : 2 * whole + 1 ≤ 2 ^ 53)
    (by decide : (-1022 : ℤ) ≤ -1) (by decide)
  have hhalf : value y = whole + 1 / 2 := by
    rw [hvalue]
    push_cast
    ring
  have herror := (abs_le.mp h.abs_sub_le).1
  have hwhole : (whole : ℚ) < 2 ^ 52 := by exact_mod_cast hsmall
  have hlt : (whole : ℚ) / 2 ^ 53 < 1 / 2 := by
    rw [div_lt_iff₀ (by positivity)]
    linarith
  rw [← hhalf]
  refine h.nearest_product.value_le h.isFinite_product hy ?_
  rw [hhalf]
  linarith

theorem le_floor_add_one : whole ≤ ⌊value product⌋₊ + 1 := by
  have hlt : (whole : ℚ) < ⌊value product⌋₊ + 1 + 1 := by
    linarith [h.le_value_product, Nat.lt_floor_add_one (value product)]
  exact Nat.le_of_lt_succ (by exact_mod_cast hlt)

theorem floor_le_add_one : ⌊value product⌋₊ ≤ whole + 1 := by
  have hle := (Nat.floor_le h.value_product_nonneg).trans h.value_product_le
  exact_mod_cast hle

theorem floor_le (hsmall : whole < 2 ^ 52) : ⌊value product⌋₊ ≤ whole := by
  have hlt : (⌊value product⌋₊ : ℚ) < whole + 1 := by
    linarith [Nat.floor_le h.value_product_nonneg, h.value_product_le_add_half hsmall]
  exact Nat.le_of_lt_succ (by exact_mod_cast hlt)

theorem floor_eq_iff (hsmall : whole < 2 ^ 52) :
    ⌊value product⌋₊ = whole ↔ whole ≤ value product := by
  constructor
  · intro heq
    rw [← heq]
    exact Nat.floor_le h.value_product_nonneg
  · intro hle
    exact le_antisymm (h.floor_le hsmall) (Nat.le_floor hle)

/-- A number that is a double itself is multiplied without error. -/
theorem value_product_eq {y : Float} (hy : y.isFinite = true) (hvalue : value y = number) :
    value product = whole := by
  obtain ⟨z, hz, hwhole⟩ := exists_value_eq_natCast h.whole_lt.le
  have hnearest := h.nearest
  have hproduct := h.nearest_product
  rw [← hvalue] at hnearest
  rw [hnearest.value_eq_self h.isFinite hy, hvalue, h.mul_eq, ← hwhole] at hproduct
  rw [hproduct.value_eq_self h.isFinite_product hz, hwhole]

end IsProduct

end Binary64

/-! ## Whole nanoseconds -/

namespace Duration

theorem truncated_eq {product : Float} (hfinite : product.isFinite = true)
    (hlt : value product < 2 ^ 64) : truncated product = ⌊value product⌋₊ := by
  have hfloor : ⌊value product⌋₊ < 2 ^ 64 := by
    rw [Nat.floor_lt' (by decide)]
    exact_mod_cast hlt
  rw [truncated, if_pos hfinite, min_eq_right (by omega)]

/-- A literal and a unit that make up whole nanoseconds are read as these but for one, below
`2 ^ 52` as no more than these, and as these where the product of doubles is not below them. Nothing
is lost if the literal is a double itself. -/
theorem read_near_whole {literal : List Char} {number : Decimal} {name : String} {unit : TimeUnit}
    {whole : Nat} (hliteral : number.Spells literal) (hname : name ∈ unit.names)
    (hwhole : number.value * unit.nanoseconds = whole) (hlt : whole < 2 ^ 53) :
    ∃ nanoseconds, read (literal ++ name.toList) = .ok nanoseconds ∧
      whole ≤ nanoseconds + 1 ∧ nanoseconds ≤ whole + 1 ∧
      (whole < 2 ^ 52 → nanoseconds ≤ whole) ∧
      (∀ x product, IsNearest number.value x → IsNearest (value x * unit.nanoseconds) product →
        whole < 2 ^ 52 → (nanoseconds = whole ↔ whole ≤ value product)) ∧
      ∀ y : Float, y.isFinite = true → value y = number.value → nanoseconds = whole := by
  have hproduct {x product : Float} (hx : IsNearest number.value x)
      (hproduct : IsNearest (value x * unit.nanoseconds) product) :
      IsProduct number.value unit.nanoseconds whole x product :=
    ⟨hx, hproduct, hwhole, unit.nanoseconds_pos, unit.nanoseconds_lt, hlt⟩
  have hread {x product : Float} (h : IsProduct number.value unit.nanoseconds whole x product) :
      read (literal ++ name.toList) = .ok ⌊value product⌋₊ := by
    have hroom : value product < 2 ^ 64 := by linarith [h.value_product_le, h.cast_lt]
    rw [read_eq_ok_iff, ← truncated_eq h.isFinite_product hroom]
    exact spells_literal_append hliteral hname h.nearest h.isFinite h.nearest_product
  have hnearest := isNearest_toFloat number
  have hfinite : number.toFloat.isFinite = true := by
    have hle : number.value ≤ number.value * unit.nanoseconds :=
      le_mul_of_one_le_right number.value_nonneg (Nat.one_le_cast.mpr unit.nanoseconds_pos)
    have hsmall : (whole : ℚ) < 2 ^ 53 := by exact_mod_cast hlt
    refine hnearest.isFinite_of_lt number.value_nonneg ?_
    linarith
  have hnonneg := hnearest.value_nonneg number.value_nonneg hfinite
  have h := hproduct hnearest (isNearest_product hfinite hnonneg unit)
  refine ⟨_, hread h, h.le_floor_add_one, h.floor_le_add_one, h.floor_le, ?_, ?_⟩
  · -- every product of nearest doubles leads to the one answer
    intro x product hx hother hsmall
    have h' := hproduct hx hother
    rw [Except.ok.inj ((hread h).symm.trans (hread h'))]
    exact h'.floor_eq_iff hsmall
  · intro y hy hvalue
    rw [h.value_product_eq hy hvalue, Nat.floor_natCast]

/-- One and a half is a double. -/
theorem read_near_whole_half : read "1.5s".toList = .ok 1500000000 := by
  have hliteral : Decimal.Spells "1.5".toList ⟨15, -1⟩ :=
    @Decimal.Spells.point ['1'] ['5'] ⟨by decide, List.all_eq_true.mp (by decide)⟩
  have hvalue : Decimal.value ⟨15, -1⟩ = 3 * 2 ^ (-1 : ℤ) := by norm_num [Decimal.value]
  obtain ⟨nanoseconds, hread, -, -, -, -, hexact⟩ :=
    @read_near_whole "1.5".toList ⟨15, -1⟩ "s" .second 1500000000 hliteral (by decide)
      (by norm_num [hvalue, TimeUnit.nanoseconds]) (by decide)
  obtain ⟨y, hy, hy'⟩ := exists_value_eq (by decide : 3 ≤ 2 ^ 53) (by decide : (-1022 : ℤ) ≤ -1)
    (by decide)
  rw [hexact y hy (hy'.trans hvalue.symm)] at hread
  exact hread

/-- Of the 1001 nanoseconds in 1.001 microseconds one is lost. -/
theorem not_read_whole :
    ¬ ∀ (literal : List Char) (number : Decimal) (name : String) (unit : TimeUnit) (whole : Nat),
      number.Spells literal → name ∈ unit.names → number.value * unit.nanoseconds = whole →
        whole < 2 ^ 53 → read (literal ++ name.toList) = .ok whole := by
  intro h
  have hliteral : Decimal.Spells "1.001".toList ⟨1001, -3⟩ :=
    @Decimal.Spells.point ['1'] ['0', '0', '1'] ⟨by decide, List.all_eq_true.mp (by decide)⟩
  have hexact := h "1.001".toList ⟨1001, -3⟩ "us" .microsecond 1001 hliteral (by decide)
    (by norm_num [Decimal.value, TimeUnit.nanoseconds]) (by decide)
  have hread : read ("1.001".toList ++ "us".toList) = .ok 1000 := by decide +kernel
  rw [hread] at hexact
  cases hexact

end Duration

end PushBench
