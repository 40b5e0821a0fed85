import PushBench.Suite.Outcome
import Mathlib.Data.List.Induction

/-!
# The fastest case

A suite goes through its outcomes once and keeps the fastest so far, which has to be beaten to be
replaced. Where rates compare as they should, it ends up with the first of the fastest.
-/

namespace PushBench

variable {α : Type} [Scalar α]

/-- Some values compare as numbers do: any two of them compare, and comparisons chain. -/
structure Scalar.OrdersAll (values : α → Prop) : Prop where
  total {x y : α} : values x → values y → Scalar.le x y = true ∨ Scalar.le y x = true
  trans {x y z : α} : values x → values y → values z → Scalar.le x y = true →
    Scalar.le y z = true → Scalar.le x z = true

namespace SuiteResult

/-- The first of the fastest outcomes: those before it are slower, and none after it is faster. -/
structure IsFirstFastest (outcomes before after : List (CaseOutcome α)) (outcome : CaseOutcome α)
    (rate : α) : Prop where
  outcomes_eq : outcomes = before ++ outcome :: after
  rate_eq : outcome.rate? = some rate
  slower {other : CaseOutcome α} {slower : α} : other ∈ before → other.rate? = some slower →
    Scalar.le rate slower = false
  not_faster {other : CaseOutcome α} {later : α} : other ∈ after → other.rate? = some later →
    Scalar.le later rate = true

/-- All rates are among some values. -/
def RatesAmong (values : α → Prop) (outcomes : List (CaseOutcome α)) : Prop :=
  ∀ outcome ∈ outcomes, ∀ rate, outcome.rate? = some rate → values rate

/-- What is kept of outcomes: nothing while none has a rate, and else the first of the fastest. -/
inductive Leads (outcomes : List (CaseOutcome α)) : Option (String × α) → Prop where
  | unrated (h : ∀ outcome ∈ outcomes, outcome.rate? = none) : Leads outcomes none
  | led {before after : List (CaseOutcome α)} {outcome : CaseOutcome α} {rate : α}
    (h : IsFirstFastest outcomes before after outcome rate) :
    Leads outcomes (some (outcome.name, rate))

variable {outcomes before after : List (CaseOutcome α)} {outcome next : CaseOutcome α}
  {rate faster : α} {values : α → Prop}

namespace IsFirstFastest

theorem mem (h : IsFirstFastest outcomes before after outcome rate) : outcome ∈ outcomes := by
  rw [h.outcomes_eq]
  exact List.mem_append_right _ List.mem_cons_self

/-- No outcome is faster than the first of the fastest. -/
theorem le (h : IsFirstFastest outcomes before after outcome rate)
    (horders : Scalar.OrdersAll values) (hvalues : RatesAmong values outcomes)
    {other : CaseOutcome α} (hmem : other ∈ outcomes) {value : α}
    (hvalue : other.rate? = some value) : Scalar.le value rate = true := by
  have hrate := hvalues outcome h.mem rate h.rate_eq
  have hother := hvalues other hmem value hvalue
  rw [h.outcomes_eq] at hmem
  rcases List.mem_append.mp hmem with hbefore | hrest
  · have hslower := h.slower hbefore hvalue
    rcases horders.total hother hrate with hle | hle
    · exact hle
    · simp [hslower] at hle
  · rcases List.mem_cons.mp hrest with rfl | hafter
    · obtain rfl : rate = value := Option.some.inj (h.rate_eq.symm.trans hvalue)
      simpa using horders.total hrate hrate
    · exact h.not_faster hafter hvalue

theorem concat (h : IsFirstFastest outcomes before after outcome rate)
    (hnext : ∀ later, next.rate? = some later → Scalar.le later rate = true) :
    IsFirstFastest (outcomes ++ [next]) before (after ++ [next]) outcome rate where
  outcomes_eq := by rw [h.outcomes_eq, List.append_assoc, List.cons_append]
  rate_eq := h.rate_eq
  slower := h.slower
  not_faster {other later} hmem hlater := by
    rcases List.mem_append.mp hmem with hold | hnew
    · exact h.not_faster hold hlater
    · rw [List.mem_singleton.mp hnew] at hlater
      exact hnext later hlater

/-- An outcome that is faster takes the place of the first of the fastest. -/
theorem replace (h : IsFirstFastest outcomes before after outcome rate)
    (horders : Scalar.OrdersAll values) (hvalues : RatesAmong values outcomes)
    (hfaster : values faster) (hnext : next.rate? = some faster)
    (hbeats : Scalar.le faster rate = false) :
    IsFirstFastest (outcomes ++ [next]) outcomes [] next faster where
  outcomes_eq := rfl
  rate_eq := hnext
  slower {other slower} hmem hslower := by
    apply Bool.eq_false_iff.mpr
    intro hle
    have hrate := hvalues outcome h.mem rate h.rate_eq
    have hother := hvalues other hmem slower hslower
    have hbest := h.le horders hvalues hmem hslower
    have hchain := horders.trans hfaster hother hrate hle hbest
    simp [hbeats] at hchain
  not_faster hmem := by simp at hmem

end IsFirstFastest

/-- One more outcome leaves what is kept, unless it is faster. -/
theorem Leads.concat {best : Option (String × α)} (h : Leads outcomes best)
    (horders : Scalar.OrdersAll values) (hvalues : RatesAmong values (outcomes ++ [next])) :
    Leads (outcomes ++ [next]) (SuiteResult.faster best next) := by
  have hold : RatesAmong values outcomes :=
    fun other hmem ↦ hvalues other (List.mem_append_left _ hmem)
  unfold SuiteResult.faster
  cases hrate : next.rate? with
  | none =>
    cases h with
    | unrated h =>
      refine .unrated fun other hmem ↦ ?_
      rcases List.mem_append.mp hmem with hmem | hmem
      · exact h other hmem
      · rw [List.mem_singleton.mp hmem, hrate]
    | led h => exact .led (h.concat (by simp [hrate]))
  | some faster =>
    cases h with
    | unrated h =>
      have hfirst : IsFirstFastest (outcomes ++ [next]) outcomes [] next faster :=
        ⟨rfl, hrate, fun {other slower} hmem hslower ↦ by simp [h other hmem] at hslower, by simp⟩
      exact .led hfirst
    | @led before after outcome rate h =>
      dsimp only
      split
      next hle =>
        refine .led (h.concat fun later hlater ↦ ?_)
        obtain rfl : faster = later := Option.some.inj (hrate.symm.trans hlater)
        exact hle
      next hbeats =>
        have hfaster := hvalues next (List.mem_append_right _ List.mem_cons_self) faster hrate
        exact .led (h.replace horders hold hfaster hrate (Bool.eq_false_iff.mpr hbeats))

/-- Of outcomes whose rates compare as numbers do, the first of the fastest is kept. -/
theorem leads_foldl (horders : Scalar.OrdersAll values) (hvalues : RatesAmong values outcomes) :
    Leads outcomes (outcomes.foldl SuiteResult.faster none) := by
  induction outcomes using List.reverseRecOn with
  | nil => exact .unrated (by simp)
  | append_singleton outcomes next ih =>
    have hbest := ih fun other hmem ↦ hvalues other (List.mem_append_left _ hmem)
    rw [List.foldl_append]
    exact hbest.concat horders hvalues

end SuiteResult

end PushBench
