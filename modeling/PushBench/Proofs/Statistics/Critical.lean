import Mathlib.Data.List.Forall2
import Mathlib.Data.List.GetD
import PushBench.Proofs.Number.Exact
import PushBench.Statistics.Confidence

/-!
# Critical values

In exact arithmetic critical values are positive numbers. They do not grow with the degrees of
freedom, also not where the table ends and the normal distribution takes over, and they are greater
at higher levels of confidence.
-/

namespace PushBench

namespace Confidence

variable {level higher : Confidence}

theorem ofScientific_le_iff {mantissa mantissa' exponent exponent' : Nat}
    {negative negative' : Bool} :
    (OfScientific.ofScientific mantissa negative exponent : EReal) ≤
        OfScientific.ofScientific mantissa' negative' exponent' ↔
      (OfScientific.ofScientific mantissa negative exponent : ℝ) ≤
        OfScientific.ofScientific mantissa' negative' exponent' :=
  EReal.coe_le_coe_iff

/-! ## Degrees of freedom -/

/-- The critical values for one degree of freedom, for two, and so on; the last is the one of the
normal distribution. -/
noncomputable def criticalValues (level : Confidence) : List EReal :=
  level.criticalTable ++ [level.normalCritical]

theorem length_criticalTable (level : Confidence) :
    (level.criticalTable : List EReal).length = 30 := by
  cases level <;> rfl

theorem index_lt_length (level : Confidence) (freedom : Nat) :
    min (freedom - 1) 30 < level.criticalValues.length := by
  rw [criticalValues, List.length_append, length_criticalTable, List.length_singleton]
  omega

theorem critical_eq_getD (level : Confidence) (freedom : Nat) :
    (level.critical freedom : EReal) =
      level.criticalValues.getD (min (freedom - 1) 30) level.normalCritical := by
  have hlength := level.length_criticalTable
  rcases Nat.lt_or_ge (freedom - 1) 30 with htable | hnormal
  · rw [Nat.min_eq_left htable.le, criticalValues, List.getD_append _ _ _ _ (hlength ▸ htable)]
    rfl
  · rw [Nat.min_eq_right hnormal, criticalValues,
      List.getD_append_right _ _ _ _ (Nat.le_of_eq hlength), hlength, critical,
      List.getD_eq_default _ _ (hlength ▸ hnormal)]
    rfl

theorem pairwise_criticalValues (level : Confidence) :
    level.criticalValues.Pairwise (· ≥ ·) := by
  rw [← List.isChain_iff_pairwise, criticalValues]
  cases level <;>
    simp only [criticalTable, normalCritical, List.cons_append, List.nil_append, ge_iff_le,
      List.isChain_cons_cons, ofScientific_le_iff, List.isChain_singleton, and_true] <;>
    norm_num

/-- More degrees of freedom do not raise a critical value. -/
theorem critical_antitone (level : Confidence) :
    Antitone fun freedom : ℕ ↦ (level.critical freedom : EReal) := by
  intro freedom more hle
  have hindex := level.index_lt_length freedom
  have hmore := level.index_lt_length more
  simp only [critical_eq_getD]
  rw [List.getD_eq_getElem _ _ hindex, List.getD_eq_getElem _ _ hmore]
  have hplace : min (freedom - 1) 30 ≤ min (more - 1) 30 := by omega
  rcases hplace.lt_or_eq with hlt | heq
  · exact List.pairwise_iff_getElem.mp level.pairwise_criticalValues _ _ hindex hmore hlt
  · simp only [heq, le_refl]

/-! ## Levels -/

/-- A higher level does not lower a critical value, whatever the degrees of freedom are. -/
theorem forall₂_criticalValues (hlevel : level.percent ≤ higher.percent) :
    List.Forall₂ (· ≤ ·) level.criticalValues higher.criticalValues := by
  cases level <;> cases higher <;>
    first
    | exact absurd hlevel (by decide)
    | simp only [criticalValues, criticalTable, normalCritical, List.cons_append, List.nil_append,
        List.forall₂_cons, ofScientific_le_iff, List.Forall₂.nil, and_true]
      norm_num

theorem critical_le_critical (hlevel : level.percent ≤ higher.percent) (freedom : Nat) :
    (level.critical freedom : EReal) ≤ higher.critical freedom := by
  have hindex := level.index_lt_length freedom
  have hhigher := higher.index_lt_length freedom
  rw [critical_eq_getD, critical_eq_getD, List.getD_eq_getElem _ _ hindex,
    List.getD_eq_getElem _ _ hhigher]
  exact (List.forall₂_iff_get.mp (forall₂_criticalValues hlevel)).2 _ hindex hhigher

/-! ## Numbers -/

theorem critical_pos (level : Confidence) (freedom : Nat) :
    0 < (level.critical freedom : EReal) := by
  have hnormal : (0 : EReal) < level.normalCritical := by
    cases level <;> rw [normalCritical, Exact.ofScientific_eq, EReal.coe_pos] <;> norm_num
  have hle : (level.critical (freedom + 31) : EReal) ≤ level.critical freedom :=
    level.critical_antitone (Nat.le_add_right _ _)
  have hlast : (level.critical (freedom + 31) : EReal) = level.normalCritical := by
    rw [critical, List.getD_eq_default]
    rw [length_criticalTable]
    omega
  exact hnormal.trans_le (hlast ▸ hle)

theorem critical_lt_top (level : Confidence) (freedom : Nat) :
    (level.critical freedom : EReal) < ⊤ := by
  have hfirst : (level.critical 0 : EReal) < ⊤ := by
    cases level <;> exact EReal.coe_lt_top _
  exact (level.critical_antitone (Nat.zero_le freedom)).trans_lt hfirst

/-- The critical value as a number. -/
noncomputable def criticalValue (level : Confidence) (freedom : Nat) : ℝ :=
  (level.critical freedom : EReal).toReal

theorem coe_criticalValue (level : Confidence) (freedom : Nat) :
    (level.criticalValue freedom : EReal) = level.critical freedom :=
  EReal.coe_toReal (level.critical_lt_top freedom).ne
    (EReal.bot_lt_zero.trans (level.critical_pos freedom)).ne'

theorem criticalValue_pos (level : Confidence) (freedom : Nat) :
    0 < level.criticalValue freedom := by
  rw [← EReal.coe_pos, coe_criticalValue]
  exact level.critical_pos freedom

theorem criticalValue_antitone (level : Confidence) : Antitone level.criticalValue := by
  intro freedom more hle
  rw [← EReal.coe_le_coe_iff, coe_criticalValue, coe_criticalValue]
  exact level.critical_antitone hle

theorem criticalValue_le_criticalValue (hlevel : level.percent ≤ higher.percent) (freedom : Nat) :
    level.criticalValue freedom ≤ higher.criticalValue freedom := by
  rw [← EReal.coe_le_coe_iff, coe_criticalValue, coe_criticalValue]
  exact critical_le_critical hlevel freedom

end Confidence

end PushBench
