import Mathlib.Algebra.Order.Floor.Ring
import Mathlib.Analysis.Real.Sqrt
import Mathlib.Data.EReal.Inv
import PushBench.Number.Scalar

/-!
# Exact arithmetic

The extended real numbers as scalars: nothing is rounded, and a margin that is not bounded is
infinity. Between finite values all operations are those of the real numbers.
-/

namespace PushBench

noncomputable instance : Scalar EReal where
  ofScientific mantissa negative exponent :=
    ((OfScientific.ofScientific mantissa negative exponent : ℝ) : EReal)
  ofNat count := count
  sqrt x := if x = ⊤ then ⊤ else (Real.sqrt x.toReal : ℝ)
  lt x y := decide (x < y)
  le x y := decide (x ≤ y)
  sortsBefore x y := decide (x ≤ y)
  infinity := ⊤
  isInfinite x := decide (x = ⊤ ∨ x = ⊥)
  floor x := ⌊x.toReal⌋₊
  ceil x := ⌈x.toReal⌉₊

namespace Exact

theorem ofScientific_eq (mantissa : Nat) (negative : Bool) (exponent : Nat) :
    (OfScientific.ofScientific mantissa negative exponent : EReal) =
      ((OfScientific.ofScientific mantissa negative exponent : ℝ) : EReal) := rfl

@[simp]
theorem zero_eq : (0.0 : EReal) = 0 := by
  rw [ofScientific_eq]
  norm_num

theorem one_eq : (1.0 : EReal) = ((1 : ℝ) : EReal) := by
  rw [ofScientific_eq]
  norm_num

theorem hundred_eq : (100.0 : EReal) = ((100 : ℝ) : EReal) := by
  rw [ofScientific_eq]
  norm_num

@[simp]
theorem ofNat_eq (count : Nat) : (Scalar.ofNat count : EReal) = count := rfl

@[simp]
theorem infinity_eq : (Scalar.infinity : EReal) = ⊤ := rfl

@[simp]
theorem lt_iff {x y : EReal} : Scalar.lt x y = true ↔ x < y := decide_eq_true_iff

@[simp]
theorem le_iff {x y : EReal} : Scalar.le x y = true ↔ x ≤ y := decide_eq_true_iff

@[simp]
theorem sortsBefore_iff {x y : EReal} : Scalar.sortsBefore x y = true ↔ x ≤ y := decide_eq_true_iff

@[simp]
theorem floor_coe (x : ℝ) : Scalar.floor (x : EReal) = ⌊x⌋₊ := rfl

@[simp]
theorem isInfinite_coe (x : ℝ) : Scalar.isInfinite (x : EReal) = false := by
  simp [Scalar.isInfinite]

@[simp]
theorem isInfinite_top : Scalar.isInfinite (⊤ : EReal) = true := by
  simp [Scalar.isInfinite]

@[simp]
theorem sqrt_coe (x : ℝ) : Scalar.sqrt (x : EReal) = (Real.sqrt x : ℝ) := by
  simp [Scalar.sqrt]

/-- Sums of finite values are sums of real numbers. -/
theorem sum_map_coe (values : List ℝ) :
    Scalar.sum (values.map Real.toEReal) = (values.sum : ℝ) := by
  induction values using List.reverseRecOn with
  | nil => simp [Scalar.sum]
  | append_singleton values value ih =>
    simp only [Scalar.sum, List.map_append, List.foldl_append] at ih ⊢
    rw [ih, List.sum_append, EReal.coe_add]
    simp

end Exact

end PushBench
