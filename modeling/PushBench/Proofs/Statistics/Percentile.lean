import Mathlib.Data.List.GetD
import PushBench.Proofs.Number.Exact
import PushBench.Statistics.Percentile

/-!
# Percentiles

A percentile depends on a list only through its values in ascending order. In exact arithmetic it
moves along the straight lines that join these values, each to the next, as the percentage grows.
-/

namespace PushBench

section

variable {α : Type} [Scalar α] {values other : List α} {percentage : α}

/-! ## Order -/

/-- The order that values are sorted by is total, and values that it does not tell apart are the
same. -/
class Scalar.SortsTotally (α : Type) [Scalar α] : Prop where
  total (x y : α) : (Scalar.sortsBefore x y || Scalar.sortsBefore y x) = true
  trans (x y z : α) : Scalar.sortsBefore x y = true → Scalar.sortsBefore y z = true →
    Scalar.sortsBefore x z = true
  antisymm (x y : α) : Scalar.sortsBefore x y = true → Scalar.sortsBefore y x = true → x = y

/-- However a list is ordered, its values are sorted in one way. -/
theorem mergeSort_eq_of_perm [Scalar.SortsTotally α] (h : values.Perm other) :
    values.mergeSort Scalar.sortsBefore = other.mergeSort Scalar.sortsBefore := by
  have hsorted (list : List α) := List.pairwise_mergeSort Scalar.SortsTotally.trans
    Scalar.SortsTotally.total list
  apply List.Perm.eq_of_pairwise (fun x y _ _ ↦ Scalar.SortsTotally.antisymm x y) (hsorted values)
    (hsorted other)
  exact (List.mergeSort_perm _ _).trans (h.trans (List.mergeSort_perm _ _).symm)

/-- The rank of a percentage in a list whose last rank is given. -/
def percentileRank (last : Nat) (percentage : α) : α :=
  Scalar.clamp (0.0 : α) (1.0 : α) (percentage / (100.0 : α)) * Scalar.ofNat last

theorem percentile_of_two_le (hmany : 2 ≤ values.length) :
    percentile values percentage =
      interpolateAt (values.mergeSort Scalar.sortsBefore) (values.length - 1)
        (percentileRank (values.length - 1) percentage) := by
  match values, hmany with
  | _ :: _ :: _, _ => rfl

theorem percentile_eq_of_perm [Scalar.SortsTotally α] (h : values.Perm other) (percentage : α) :
    percentile values percentage = percentile other percentage := by
  rcases Nat.lt_or_ge values.length 2 with hfew | hmany
  · match values, hfew with
    | [], _ => rw [List.nil_perm.mp h]
    | [value], _ => rw [List.singleton_perm.mp h]
  · have hother : 2 ≤ other.length := h.length_eq ▸ hmany
    rw [percentile_of_two_le hmany, percentile_of_two_le hother, mergeSort_eq_of_perm h,
      h.length_eq]

/-! ## Places -/

/-- The value at a fractional rank of a list, if the list has both places that it is read from. -/
def interpolateAt? (sorted : List α) (last : Nat) (rank : α) : Option α := do
  let low ← sorted[Scalar.floor rank]?
  let high ← sorted[min (Scalar.floor rank + 1) last]?
  return low + (rank - Scalar.ofNat (Scalar.floor rank)) * (high - low)

/-- The percentile of a list, if no place outside the list has to be read for it. -/
def percentile? (values : List α) (percentage : α) : Option α :=
  match values with
  | [] => some (0.0 : α)
  | [value] => some value
  | _ =>
    interpolateAt? (values.mergeSort Scalar.sortsBefore) (values.length - 1)
      (percentileRank (values.length - 1) percentage)

theorem interpolateAt?_eq_some {sorted : List α} {last : Nat} {rank : α}
    (hlength : sorted.length = last + 1) (hrank : Scalar.floor rank ≤ last) :
    interpolateAt? sorted last rank = some (interpolateAt sorted last rank) := by
  have hlower : Scalar.floor rank < sorted.length := hlength ▸ Nat.lt_succ_of_le hrank
  have hupper : min (Scalar.floor rank + 1) last < sorted.length :=
    hlength ▸ Nat.lt_succ_of_le (Nat.min_le_right _ _)
  simp only [interpolateAt?, interpolateAt, List.getElem?_eq_getElem hlower,
    List.getElem?_eq_getElem hupper, List.getD_eq_getElem _ _ hlower,
    List.getD_eq_getElem _ _ hupper]
  rfl

theorem percentile?_eq_some
    (hrank : 2 ≤ values.length →
      Scalar.floor (percentileRank (values.length - 1) percentage) ≤ values.length - 1) :
    percentile? values percentage = some (percentile values percentage) := by
  match values, hrank with
  | [], _ => rfl
  | [value], _ => rfl
  | first :: second :: rest, hrank =>
    have hmany : 2 ≤ (first :: second :: rest).length := by simp
    rw [percentile_of_two_le hmany]
    exact interpolateAt?_eq_some (by simp) (hrank hmany)

end

/-! ## Straight lines -/

/-- Numbers that are given at whole ranks, joined by straight lines. -/
noncomputable def joined (value : ℕ → ℝ) (rank : ℝ) : ℝ :=
  value ⌊rank⌋₊ + (rank - ⌊rank⌋₊) * (value (⌊rank⌋₊ + 1) - value ⌊rank⌋₊)

section

variable {value : ℕ → ℝ} {rank further part : ℝ}

/-- Between a whole rank and the next one, both included, there is one line. -/
theorem joined_add (value : ℕ → ℝ) (index : ℕ) (hnonneg : 0 ≤ part) (hle : part ≤ 1) :
    joined value (index + part) = value index + part * (value (index + 1) - value index) := by
  rcases hle.lt_or_eq with hlt | rfl
  · have hfloor : ⌊(index : ℝ) + part⌋₊ = index := by
      rw [Nat.floor_eq_iff (by positivity)]
      constructor <;> linarith
    rw [joined, hfloor]
    ring
  · have hfloor : ⌊(index : ℝ) + 1⌋₊ = index + 1 := by
      rw [← Nat.cast_add_one, Nat.floor_natCast]
    rw [joined, hfloor]
    push_cast
    ring

theorem joined_natCast (value : ℕ → ℝ) (index : ℕ) : joined value index = value index := by
  have h := joined_add value index le_rfl zero_le_one
  rwa [add_zero, zero_mul, add_zero] at h

theorem le_joined (hmono : Monotone value) (hrank : 0 ≤ rank) :
    value ⌊rank⌋₊ ≤ joined value rank := by
  have hstep : value ⌊rank⌋₊ ≤ value (⌊rank⌋₊ + 1) := hmono (Nat.le_succ _)
  have hpart : 0 ≤ rank - ⌊rank⌋₊ := sub_nonneg.mpr (Nat.floor_le hrank)
  have hrise := mul_nonneg hpart (sub_nonneg.mpr hstep)
  rw [joined]
  linarith

theorem joined_le (hmono : Monotone value) (rank : ℝ) :
    joined value rank ≤ value (⌊rank⌋₊ + 1) := by
  have hstep : value ⌊rank⌋₊ ≤ value (⌊rank⌋₊ + 1) := hmono (Nat.le_succ _)
  have hpart : rank - ⌊rank⌋₊ ≤ 1 := by linarith [Nat.lt_floor_add_one rank]
  have hrise := mul_le_mul_of_nonneg_right hpart (sub_nonneg.mpr hstep)
  rw [joined]
  linarith

/-- Lines that join ascending numbers ascend. -/
theorem joined_mono (hmono : Monotone value) (hrank : 0 ≤ rank) (hle : rank ≤ further) :
    joined value rank ≤ joined value further := by
  have hfurther : 0 ≤ further := hrank.trans hle
  rcases (Nat.floor_mono hle).lt_or_eq with hlt | heq
  · calc
      joined value rank ≤ value (⌊rank⌋₊ + 1) := joined_le hmono rank
      _ ≤ value ⌊further⌋₊ := hmono hlt
      _ ≤ joined value further := le_joined hmono hfurther
  · -- on one line the greater rank is further up
    have hstep : value ⌊further⌋₊ ≤ value (⌊further⌋₊ + 1) := hmono (Nat.le_succ _)
    have hrise := mul_le_mul_of_nonneg_right hle (sub_nonneg.mpr hstep)
    rw [joined, joined, heq]
    linarith

theorem joined_mul (factor : ℝ) (value : ℕ → ℝ) (rank : ℝ) :
    joined (fun index ↦ factor * value index) rank = factor * joined value rank := by
  rw [joined, joined]
  ring

end

/-! ## Exact percentiles -/

/-- The number at a rank of a list. Ranks past the end count as the last. -/
def valueAt (sorted : List ℝ) (index : ℕ) : ℝ := sorted.getD (min index (sorted.length - 1)) 0

/-- The share of a list that a percentage stands for. -/
noncomputable def share (percentage : ℝ) : ℝ := max 0 (min 1 (percentage / 100))

section

variable {values sorted : List ℝ} {rank percentage : ℝ}

theorem valueAt_eq_getElem {index : ℕ} (hindex : index < sorted.length) :
    valueAt sorted index = sorted[index] := by
  rw [valueAt, Nat.min_eq_left (Nat.le_sub_one_of_lt hindex), List.getD_eq_getElem _ _ hindex]

theorem valueAt_mem (hne : sorted ≠ []) (index : ℕ) : valueAt sorted index ∈ sorted := by
  have hpos := List.length_pos_iff.mpr hne
  have hindex : min index (sorted.length - 1) < sorted.length := by omega
  rw [valueAt, List.getD_eq_getElem _ _ hindex]
  exact List.getElem_mem hindex

theorem valueAt_mono (hsorted : sorted.Pairwise (· ≤ ·)) : Monotone (valueAt sorted) := by
  intro index further hle
  rcases eq_or_ne sorted [] with rfl | hne
  · rfl
  have hpos := List.length_pos_iff.mpr hne
  have hindex : min index (sorted.length - 1) < sorted.length := by omega
  have hfurther : min further (sorted.length - 1) < sorted.length := by omega
  rw [valueAt, valueAt, List.getD_eq_getElem _ _ hindex, List.getD_eq_getElem _ _ hfurther]
  rcases (min_le_min_right (sorted.length - 1) hle).lt_or_eq with hlt | heq
  · exact List.pairwise_iff_getElem.mp hsorted _ _ hindex hfurther hlt
  · simp only [heq, le_refl]

theorem share_nonneg (percentage : ℝ) : 0 ≤ share percentage := le_max_left _ _

theorem share_le_one (percentage : ℝ) : share percentage ≤ 1 :=
  max_le zero_le_one (min_le_left _ _)

theorem share_mono : Monotone share := by
  intro percentage further hle
  have hscaled : percentage / 100 ≤ further / 100 := div_le_div_of_nonneg_right hle (by norm_num)
  exact max_le_max le_rfl (min_le_min le_rfl hscaled)

end

namespace Exact

variable {values other sorted : List ℝ} {rank percentage : ℝ}

instance : Scalar.SortsTotally EReal where
  total x y := by
    rw [Bool.or_eq_true, sortsBefore_iff, sortsBefore_iff]
    exact le_total x y
  trans x y z hxy hyz := by
    rw [sortsBefore_iff] at hxy hyz ⊢
    exact hxy.trans hyz
  antisymm x y hxy hyx := by
    rw [sortsBefore_iff] at hxy hyx
    exact le_antisymm hxy hyx

/-- The values of a list in ascending order. -/
noncomputable def ascending (values : List ℝ) : List ℝ := values.mergeSort

theorem ascending_perm (values : List ℝ) : (ascending values).Perm values :=
  List.mergeSort_perm values _

theorem pairwise_ascending (values : List ℝ) : (ascending values).Pairwise (· ≤ ·) :=
  List.pairwise_mergeSort' (· ≤ ·) values

theorem ascending_eq (hperm : sorted.Perm values) (hsorted : sorted.Pairwise (· ≤ ·)) :
    ascending values = sorted :=
  List.Perm.eq_of_pairwise (fun _ _ _ _ ↦ le_antisymm) (pairwise_ascending values) hsorted
    ((ascending_perm values).trans hperm.symm)

theorem mergeSort_map_coe (values : List ℝ) :
    (values.map Real.toEReal).mergeSort Scalar.sortsBefore =
      (ascending values).map Real.toEReal := by
  symm
  apply List.map_mergeSort
  intro x _ y _
  rw [Bool.eq_iff_iff, sortsBefore_iff, EReal.coe_le_coe_iff, decide_eq_true_iff]

theorem clamp_coe {lower upper : ℝ} (hle : lower ≤ upper) (x : ℝ) :
    Scalar.clamp (lower : EReal) (upper : EReal) (x : EReal) =
      ((max lower (min upper x) : ℝ) : EReal) := by
  simp only [Scalar.clamp, lt_iff, EReal.coe_lt_coe_iff]
  split_ifs with hlow hhigh
  · rw [max_eq_left ((min_le_right upper x).trans hlow.le)]
  · rw [min_eq_left hhigh.le, max_eq_right hle]
  · rw [min_eq_right (not_lt.mp hhigh), max_eq_right (not_lt.mp hlow)]

theorem percentileRank_coe (last : ℕ) (percentage : ℝ) :
    percentileRank last (percentage : EReal) = ((share percentage * last : ℝ) : EReal) := by
  rw [percentileRank, hundred_eq, one_eq, zero_eq, ← EReal.coe_zero, ← EReal.coe_div,
    clamp_coe zero_le_one, ofNat_eq, EReal.coe_mul, EReal.coe_natCast]
  rfl

theorem interpolateAt_coe (hrank : ⌊rank⌋₊ ≤ sorted.length - 1) :
    interpolateAt (sorted.map Real.toEReal) (sorted.length - 1) (rank : EReal) =
      (joined (valueAt sorted) rank : EReal) := by
  have hget (index : ℕ) : (sorted.map Real.toEReal).getD index (0.0 : EReal) =
      (sorted.getD index 0 : ℝ) := by
    rw [zero_eq, ← EReal.coe_zero, List.getD_map]
  have hlower : valueAt sorted ⌊rank⌋₊ = sorted.getD ⌊rank⌋₊ 0 := by
    rw [valueAt, Nat.min_eq_left hrank]
  rw [interpolateAt, floor_coe, hget, hget, joined, hlower, valueAt, ofNat_eq]
  push_cast
  rfl

theorem floor_rank_le (percentage : ℝ) (last : ℕ) : ⌊share percentage * last⌋₊ ≤ last := by
  apply Nat.floor_le_of_le
  exact mul_le_of_le_one_left last.cast_nonneg (share_le_one percentage)

/-- A percentile lies on the lines that join the values in ascending order. -/
theorem percentile_coe (hne : values ≠ []) (percentage : ℝ) :
    percentile (values.map Real.toEReal) (percentage : EReal) =
      (joined (valueAt (ascending values)) (share percentage * (values.length - 1 : ℕ)) :
        EReal) := by
  have hlength : (ascending values).length = values.length := (ascending_perm values).length_eq
  rcases Nat.lt_or_ge values.length 2 with hfew | hmany
  · match values, hfew, hne with
    | [value], _, _ =>
      have hsingle : ascending [value] = [value] := List.mergeSort_singleton value
      rw [hsingle, List.length_singleton, Nat.sub_self, Nat.cast_zero, mul_zero, ← Nat.cast_zero,
        joined_natCast]
      rfl
  · have hmapped : 2 ≤ (values.map Real.toEReal).length := by rwa [List.length_map]
    have hrank := floor_rank_le percentage (values.length - 1)
    rw [percentile_of_two_le hmapped, List.length_map, mergeSort_map_coe, percentileRank_coe]
    rw [← hlength] at hrank ⊢
    exact interpolateAt_coe hrank

theorem share_rank {last : ℕ} (hlast : 0 < last) (hrank : 0 ≤ rank) (hle : rank ≤ last) :
    share (100 * rank / last) * last = rank := by
  have hpos : (0 : ℝ) < last := Nat.cast_pos.mpr hlast
  have hshare : 100 * rank / last / 100 = rank / last := by
    field_simp
  have hone : rank / last ≤ 1 := (div_le_one hpos).mpr hle
  rw [share, hshare, min_eq_right hone, max_eq_right (div_nonneg hrank hpos.le),
    div_mul_cancel₀ rank hpos.ne']

section

variable (hperm : sorted.Perm values) (hsorted : sorted.Pairwise (· ≤ ·))
include hperm hsorted

theorem percentile_eq_joined (hne : values ≠ []) (percentage : ℝ) :
    percentile (values.map Real.toEReal) (percentage : EReal) =
      (joined (valueAt sorted) (share percentage * (sorted.length - 1 : ℕ)) : EReal) := by
  rw [percentile_coe hne, ascending_eq hperm hsorted, hperm.length_eq]

/-- Every rank of a list has a percentage that it is read at. -/
theorem percentile_rank (hmany : 2 ≤ sorted.length) (hrank : 0 ≤ rank)
    (hle : rank ≤ (sorted.length - 1 : ℕ)) :
    percentile (values.map Real.toEReal) ((100 * rank / (sorted.length - 1 : ℕ) : ℝ) : EReal) =
      (joined (valueAt sorted) rank : EReal) := by
  have hlength := hperm.length_eq
  have hne : values ≠ [] := List.ne_nil_of_length_pos (by omega)
  have hlast : 0 < sorted.length - 1 := by omega
  rw [percentile_eq_joined hperm hsorted hne, share_rank hlast hrank hle]

theorem percentile_between (hne : values ≠ []) {lower upper : ℝ}
    (hlower : ∀ value ∈ sorted, lower ≤ value) (hupper : ∀ value ∈ sorted, value ≤ upper)
    (percentage : ℝ) :
    lower ≤ percentile (values.map Real.toEReal) (percentage : EReal) ∧
      percentile (values.map Real.toEReal) (percentage : EReal) ≤ upper := by
  have hsortedNe : sorted ≠ [] := fun hnil ↦ hne (List.nil_perm.mp (hnil ▸ hperm))
  have hmono := valueAt_mono hsorted
  have hrank : 0 ≤ share percentage * (sorted.length - 1 : ℕ) :=
    mul_nonneg (share_nonneg percentage) (Nat.cast_nonneg _)
  rw [percentile_eq_joined hperm hsorted hne, EReal.coe_le_coe_iff, EReal.coe_le_coe_iff]
  constructor
  · exact (hlower _ (valueAt_mem hsortedNe _)).trans (le_joined hmono hrank)
  · exact (joined_le hmono _).trans (hupper _ (valueAt_mem hsortedNe _))

theorem percentile_mono (hne : values ≠ []) :
    Monotone fun percentage : ℝ ↦
      percentile (values.map Real.toEReal) (percentage : EReal) := by
  intro percentage further hle
  simp only [percentile_eq_joined hperm hsorted hne, EReal.coe_le_coe_iff]
  apply joined_mono (valueAt_mono hsorted)
  · exact mul_nonneg (share_nonneg percentage) (Nat.cast_nonneg _)
  · exact mul_le_mul_of_nonneg_right (share_mono hle) (Nat.cast_nonneg _)

end

/-- A function of percentages runs through ascending numbers: it stays between the first and the
last, never falls, and goes in a straight line from each number to the next. -/
structure RunsThrough (sorted : List ℝ) (read : ℝ → EReal) : Prop where
  between {lower upper : ℝ} (hlower : ∀ value ∈ sorted, lower ≤ value)
    (hupper : ∀ value ∈ sorted, value ≤ upper) (percentage : ℝ) :
    lower ≤ read percentage ∧ read percentage ≤ upper
  mono : Monotone read
  at_rank {index : ℕ} (hindex : index < sorted.length) :
    read (100 * index / (sorted.length - 1 : ℕ)) = sorted[index]
  linear {index : ℕ} (hindex : index + 1 < sorted.length) {part : ℝ} (hnonneg : 0 ≤ part)
    (hle : part ≤ 1) :
    read (100 * (index + part) / (sorted.length - 1 : ℕ)) =
      (sorted[index] + part * (sorted[index + 1] - sorted[index]) : ℝ)

theorem runsThrough_percentile (hperm : sorted.Perm values) (hsorted : sorted.Pairwise (· ≤ ·))
    (hmany : 2 ≤ values.length) :
    RunsThrough sorted fun percentage ↦
      percentile (values.map Real.toEReal) (percentage : EReal) := by
  have hne : values ≠ [] := List.ne_nil_of_length_pos (by omega)
  have hsortedMany : 2 ≤ sorted.length := hperm.length_eq ▸ hmany
  refine ⟨percentile_between hperm hsorted hne, percentile_mono hperm hsorted hne,
    fun {index} hindex ↦ ?_, fun {index} hindex {part} hpart hle ↦ ?_⟩
  · have hrank : (index : ℝ) ≤ (sorted.length - 1 : ℕ) :=
      Nat.cast_le.mpr (Nat.le_sub_one_of_lt hindex)
    have h := percentile_rank hperm hsorted hsortedMany index.cast_nonneg hrank
    rwa [joined_natCast, valueAt_eq_getElem hindex] at h
  · have hnext : ((index + 1 : ℕ) : ℝ) ≤ (sorted.length - 1 : ℕ) :=
      Nat.cast_le.mpr (Nat.le_sub_one_of_lt hindex)
    have hrank : (index : ℝ) + part ≤ (sorted.length - 1 : ℕ) := by
      rw [Nat.cast_add_one] at hnext
      linarith
    have h := percentile_rank hperm hsorted hsortedMany (by positivity) hrank
    rwa [joined_add _ _ hpart hle, valueAt_eq_getElem hindex,
      valueAt_eq_getElem (Nat.lt_of_succ_lt hindex)] at h

end Exact

end PushBench
