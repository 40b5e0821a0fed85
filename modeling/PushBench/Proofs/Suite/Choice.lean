import PushBench.Proofs.Number.Order
import PushBench.Proofs.Suite.Fastest

/-!
# The choice of the fastest case

Rates that are no NaN compare as numbers do. A suite names the first of its completed cases with
the greatest rate, whatever stands between them, and cases that come later have to be faster than
all before to be named instead.
-/

namespace PushBench

/-- Doubles that are no NaN are ordered as numbers are. -/
theorem Binary64.ordersAll : Scalar.OrdersAll fun x : Float ↦ x.isNaN = false where
  total hx hy := by
    simpa [Scalar.le, le_iff_place hx hy, le_iff_place hy hx] using le_total _ _
  trans hx hy hz hle hle' := by
    simp only [Scalar.le, decide_eq_true_eq] at hle hle' ⊢
    rw [le_iff_place hx hy] at hle
    rw [le_iff_place hy hz] at hle'
    rw [le_iff_place hx hz]
    exact hle.trans hle'

theorem CaseOutcome.rate?_eq_none_iff {α : Type} {outcome : CaseOutcome α} :
    outcome.rate? = none ↔ outcome.measurement? = none := by
  rw [rate?, Option.map_eq_none_iff]

theorem CaseOutcome.rate?_eq_some_iff {α : Type} {outcome : CaseOutcome α} {rate : α} :
    outcome.rate? = some rate ↔
      ∃ measurement, outcome.status = .completed measurement ∧
        measurement.statistics.rate = rate := by
  obtain ⟨name, status⟩ := outcome
  cases status <;> simp [rate?, measurement?]

namespace SuiteResult

section Choosing

variable {α : Type} [Scalar α] {outcomes before after before' after' : List (CaseOutcome α)}
  {outcome first first' : CaseOutcome α} {rate rate' : α} {values : α → Prop}

/-- The first of the fastest does not stand before another one: that one would have to be faster,
and must not be. -/
theorem IsFirstFastest.not_before {between : List (CaseOutcome α)}
    (h : IsFirstFastest outcomes before after first rate)
    (h' : IsFirstFastest outcomes before' after' first' rate') :
    before' ≠ before ++ first :: between := by
  intro hbefore
  have hsplit : before ++ first :: after =
      before ++ (first :: between ++ first' :: after') := by
    rw [← h.outcomes_eq, h'.outcomes_eq, hbefore, List.append_assoc]
  have hafter := List.tail_eq_of_cons_eq (List.append_cancel_left hsplit)
  have hlater : first' ∈ after := by
    rw [hafter]
    exact List.mem_append_right _ List.mem_cons_self
  have hearlier : first ∈ before' := by
    rw [hbefore]
    exact List.mem_append_right _ List.mem_cons_self
  have hbeats := h'.slower hearlier h.rate_eq
  rw [h.not_faster hlater h'.rate_eq] at hbeats
  cases hbeats

/-- A list has one first of the fastest. -/
theorem IsFirstFastest.outcome_eq (h : IsFirstFastest outcomes before after first rate)
    (h' : IsFirstFastest outcomes before' after' first' rate') : first = first' := by
  have heq : before ++ first :: after = before' ++ first' :: after' := by
    rw [← h.outcomes_eq, h'.outcomes_eq]
  rcases List.append_eq_append_iff.mp heq with ⟨middle, hbefore, hrest⟩ | ⟨middle, hbefore, hrest⟩
  · cases middle with
    | nil => exact List.head_eq_of_cons_eq hrest
    | cons head between =>
      obtain rfl : first = head := List.head_eq_of_cons_eq hrest
      exact absurd hbefore (h.not_before h')
  · cases middle with
    | nil => exact (List.head_eq_of_cons_eq hrest).symm
    | cons head between =>
      obtain rfl : first' = head := List.head_eq_of_cons_eq hrest
      exact absurd hbefore (h'.not_before h)

/-- A suite names no case if none is completed. -/
theorem fastest_ofOutcomes_eq_none_iff (horders : Scalar.OrdersAll values)
    (hvalues : RatesAmong values outcomes) (cancelled : Bool) :
    (ofOutcomes outcomes cancelled).fastest = none ↔
      ∀ outcome ∈ outcomes, outcome.measurement? = none := by
  simp only [ofOutcomes, Option.map_eq_none_iff]
  have hleads := leads_foldl horders hvalues
  generalize outcomes.foldl faster none = best at hleads ⊢
  cases hleads with
  | unrated h =>
    exact iff_of_true rfl fun other hmem ↦ CaseOutcome.rate?_eq_none_iff.mp (h other hmem)
  | @led before after outcome rate h =>
    refine iff_of_false nofun fun hnone ↦ ?_
    have hrate := CaseOutcome.rate?_eq_none_iff.mpr (hnone outcome h.mem)
    rw [h.rate_eq] at hrate
    cases hrate

/-- A suite names the first of the fastest. -/
theorem fastest_ofOutcomes_eq_some_iff (horders : Scalar.OrdersAll values)
    (hvalues : RatesAmong values outcomes) {cancelled : Bool} {name : String} :
    (ofOutcomes outcomes cancelled).fastest = some name ↔
      ∃ before first after rate, IsFirstFastest outcomes before after first rate ∧
        first.name = name := by
  simp only [ofOutcomes, Option.map_eq_some_iff]
  have hleads := leads_foldl horders hvalues
  generalize outcomes.foldl faster none = best at hleads ⊢
  cases hleads with
  | unrated h =>
    refine iff_of_false (by simp) ?_
    rintro ⟨before, first, after, rate, hfirst, -⟩
    have hrate := hfirst.rate_eq
    rw [h first hfirst.mem] at hrate
    cases hrate
  | @led before after outcome rate h =>
    constructor
    · rintro ⟨best, hbest, rfl⟩
      obtain rfl := Option.some.inj hbest
      exact ⟨before, outcome, after, rate, h, rfl⟩
    · rintro ⟨before', first, after', rate', hfirst, rfl⟩
      exact ⟨_, rfl, congrArg CaseOutcome.name (h.outcome_eq hfirst)⟩

/-- Outcomes that are not completed do not matter. -/
theorem foldl_faster_filter (outcomes : List (CaseOutcome α)) (best : Option (String × α)) :
    (outcomes.filter fun outcome ↦ outcome.measurement?.isSome).foldl faster best =
      outcomes.foldl faster best := by
  induction outcomes generalizing best with
  | nil => rfl
  | cons outcome rest ih =>
    cases hmeasurement : outcome.measurement? with
    | some measurement =>
      rw [List.filter_cons_of_pos (by simp [hmeasurement]), List.foldl_cons, List.foldl_cons, ih]
    | none =>
      have hkept : faster best outcome = best := by
        simp [faster, CaseOutcome.rate?_eq_none_iff.mpr hmeasurement]
      rw [List.filter_cons_of_neg (by simp [hmeasurement]), List.foldl_cons, hkept, ih]

/-- More outcomes leave the choice, or the first of the fastest among them is named, which is faster
than all outcomes before. -/
theorem fastest_ofOutcomes_append {more : List (CaseOutcome α)} (horders : Scalar.OrdersAll values)
    (hvalues : RatesAmong values (outcomes ++ more)) (cancelled cancelled' : Bool) :
    (ofOutcomes (outcomes ++ more) cancelled').fastest = (ofOutcomes outcomes cancelled).fastest ∨
      ∃ before first after rate, IsFirstFastest more before after first rate ∧
        (ofOutcomes (outcomes ++ more) cancelled').fastest = some first.name ∧
        ∀ other ∈ outcomes, ∀ slower, other.rate? = some slower →
          Scalar.le rate slower = false := by
  have hold : RatesAmong values outcomes :=
    fun other hmem ↦ hvalues other (List.mem_append_left _ hmem)
  cases hfastest : (ofOutcomes (outcomes ++ more) cancelled').fastest with
  | none =>
    have hnone := (fastest_ofOutcomes_eq_none_iff horders hvalues cancelled').mp hfastest
    refine .inl ((fastest_ofOutcomes_eq_none_iff horders hold cancelled).mpr ?_).symm
    exact fun other hmem ↦ hnone other (List.mem_append_left _ hmem)
  | some name =>
    obtain ⟨before, first, after, rate, hfirst, rfl⟩ :=
      (fastest_ofOutcomes_eq_some_iff horders hvalues).mp hfastest
    rcases List.append_eq_append_iff.mp hfirst.outcomes_eq with
      ⟨middle, rfl, hmore⟩ | ⟨middle, houtcomes, hafter⟩
    · refine .inr ⟨middle, first, after, rate, ⟨hmore, hfirst.rate_eq, ?_, ?_⟩, rfl, ?_⟩
      · exact fun hmem ↦ hfirst.slower (List.mem_append_right _ hmem)
      · exact fun hmem ↦ hfirst.not_faster hmem
      · exact fun other hmem slower ↦ hfirst.slower (List.mem_append_left _ hmem)
    · cases middle with
      | nil =>
        rw [List.append_nil] at houtcomes
        subst houtcomes
        refine .inr ⟨[], first, after, rate, ⟨hafter.symm, hfirst.rate_eq, by simp, ?_⟩, rfl, ?_⟩
        · exact fun hmem ↦ hfirst.not_faster hmem
        · exact fun other hmem slower ↦ hfirst.slower hmem
      | cons head rest =>
        obtain rfl : first = head := List.head_eq_of_cons_eq hafter
        obtain rfl : after = rest ++ more := List.tail_eq_of_cons_eq hafter
        have hkept : IsFirstFastest outcomes before rest first rate :=
          ⟨houtcomes, hfirst.rate_eq, hfirst.slower,
            fun hmem ↦ hfirst.not_faster (List.mem_append_left _ hmem)⟩
        exact .inl ((fastest_ofOutcomes_eq_some_iff horders hold).mpr
          ⟨before, first, rest, rate, hkept, rfl⟩).symm

end Choosing

/-! ## Rates in doubles -/

/-- The first of the completed cases with the greatest rate: the rates before it are smaller, and
those after it are not greater. -/
structure IsFirstMaximum (outcomes before after : List (CaseOutcome Float))
    (first : CaseOutcome Float) (rate : Float) : Prop where
  outcomes_eq : outcomes = before ++ first :: after
  rate_eq : first.rate? = some rate
  smaller {other : CaseOutcome Float} {slower : Float} : other ∈ before →
    other.rate? = some slower → slower < rate
  not_greater {other : CaseOutcome Float} {later : Float} : other ∈ after →
    other.rate? = some later → later ≤ rate

/-- The rates of all completed cases are numbers or infinite. -/
def RatesCompare (outcomes : List (CaseOutcome Float)) : Prop :=
  RatesAmong (fun rate ↦ rate.isNaN = false) outcomes

instance (outcomes : List (CaseOutcome Float)) : Decidable (RatesCompare outcomes) :=
  inferInstanceAs (Decidable (∀ outcome ∈ outcomes, ∀ rate ∈ outcome.rate?, rate.isNaN = false))

variable {outcomes before after : List (CaseOutcome Float)} {first : CaseOutcome Float}
  {rate : Float}

theorem RatesCompare.isFirstFastest_iff (hrates : RatesCompare outcomes) :
    IsFirstFastest outcomes before after first rate ↔
      IsFirstMaximum outcomes before after first rate := by
  have hsmaller (heq : outcomes = before ++ first :: after) (hrate : first.rate? = some rate)
      {other : CaseOutcome Float} {slower : Float} (hmem : other ∈ before)
      (hslower : other.rate? = some slower) : Scalar.le rate slower = false ↔ slower < rate := by
    have hother : other ∈ outcomes := heq ▸ List.mem_append_left _ hmem
    have hfirst : first ∈ outcomes := heq ▸ List.mem_append_right _ List.mem_cons_self
    rw [← Binary64.not_le_iff (hrates first hfirst rate hrate) (hrates other hother slower hslower)]
    exact decide_eq_false_iff_not
  constructor
  · intro h
    refine ⟨h.outcomes_eq, h.rate_eq, fun hmem hslower ↦ ?_, fun hmem hlater ↦ ?_⟩
    · exact (hsmaller h.outcomes_eq h.rate_eq hmem hslower).mp (h.slower hmem hslower)
    · exact of_decide_eq_true (h.not_faster hmem hlater)
  · intro h
    refine ⟨h.outcomes_eq, h.rate_eq, fun hmem hslower ↦ ?_, fun hmem hlater ↦ ?_⟩
    · exact (hsmaller h.outcomes_eq h.rate_eq hmem hslower).mpr (h.smaller hmem hslower)
    · exact decide_eq_true (h.not_greater hmem hlater)

/-- If no rate is a NaN, a suite names no case exactly if none is completed, and else the first
completed case with the greatest rate. The choice rests on the completed cases alone, whatever
stands between them, and more outcomes change it only to a case among them that is faster than every
case before. -/
theorem fastest_eq_first_maximum (outcomes : List (CaseOutcome Float)) (cancelled : Bool)
    (hrates : RatesCompare outcomes) :
    ((ofOutcomes outcomes cancelled).fastest = none ↔
      ∀ outcome ∈ outcomes, outcome.measurement? = none) ∧
    (∀ name, (ofOutcomes outcomes cancelled).fastest = some name ↔
      ∃ before first after rate, IsFirstMaximum outcomes before after first rate ∧
        first.name = name) ∧
    (∀ (others : List (CaseOutcome Float)) (cancelled' : Bool),
      (others.filter fun outcome ↦ outcome.measurement?.isSome) =
          (outcomes.filter fun outcome ↦ outcome.measurement?.isSome) →
        (ofOutcomes others cancelled').fastest = (ofOutcomes outcomes cancelled).fastest) ∧
    ∀ (more : List (CaseOutcome Float)) (cancelled' : Bool), RatesCompare more →
      (ofOutcomes (outcomes ++ more) cancelled').fastest = (ofOutcomes outcomes cancelled).fastest ∨
        ∃ before first after rate, IsFirstMaximum more before after first rate ∧
          (ofOutcomes (outcomes ++ more) cancelled').fastest = some first.name ∧
          ∀ other ∈ outcomes, ∀ slower, other.rate? = some slower → slower < rate := by
  refine ⟨?_, fun name ↦ ?_, fun others cancelled' hsame ↦ ?_, fun more cancelled' hmore ↦ ?_⟩
  · exact fastest_ofOutcomes_eq_none_iff Binary64.ordersAll hrates cancelled
  · rw [fastest_ofOutcomes_eq_some_iff Binary64.ordersAll hrates]
    simp only [hrates.isFirstFastest_iff]
  · have hfold := foldl_faster_filter others none
    rw [hsame, foldl_faster_filter] at hfold
    exact congrArg (Option.map Prod.fst) hfold.symm
  · have hall : RatesCompare (outcomes ++ more) := fun other hmem ↦
      (List.mem_append.mp hmem).elim (hrates other) (hmore other)
    refine (fastest_ofOutcomes_append Binary64.ordersAll hall cancelled cancelled').imp_right ?_
    rintro ⟨before, first, after, rate, hfirst, hname, hslower⟩
    refine ⟨before, first, after, rate, hmore.isFirstFastest_iff.mp hfirst, hname, ?_⟩
    intro other hmem slower hother
    have hrate := hmore first hfirst.mem rate hfirst.rate_eq
    rw [← Binary64.not_le_iff hrate (hrates other hmem slower hother)]
    exact decide_eq_false_iff_not.mp (hslower other hmem slower hother)

/-- Of two cases with the greatest rate the first is named, until a faster one comes. -/
theorem fastest_eq_first_maximum_tie :
    let completed (name : String) (rate : Float) : CaseOutcome Float :=
      ⟨name, .completed ⟨{ Statistics.empty .ninetyFive with rate }, [], .converged, 0⟩⟩
    let outcomes : List (CaseOutcome Float) :=
      [⟨"long", .skipped "out of room"⟩, completed "slow" 500.0, completed "first" 1000.0,
        ⟨"broken", .failed .execution "out of patience"⟩, completed "second" 1000.0]
    RatesCompare outcomes ∧
      (∃ before first after rate, IsFirstMaximum outcomes before after first rate ∧
        first.name = "first") ∧
      ∃ before first after rate,
        IsFirstMaximum [completed "third" 2000.0] before after first rate ∧
        (ofOutcomes (outcomes ++ [completed "third" 2000.0]) false).fastest = some first.name := by
  intro completed outcomes
  have hrates : RatesCompare outcomes := by decide +kernel
  obtain ⟨-, hnamed, -, happend⟩ := fastest_eq_first_maximum outcomes false hrates
  refine ⟨hrates, (hnamed "first").mp (by decide +kernel), ?_⟩
  rcases happend [completed "third" 2000.0] false (by decide +kernel) with
    hkept | ⟨before, first, after, rate, hfirst, hname, -⟩
  · exact absurd hkept (by decide +kernel)
  · exact ⟨before, first, after, rate, hfirst, hname⟩

end SuiteResult

end PushBench
