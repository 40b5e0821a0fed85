import PushBench.Proofs.Sampling.Steady
import PushBench.Proofs.Suite.Alike
import PushBench.Proofs.Suite.Check
import PushBench.Proofs.Suite.Fastest
import PushBench.Proofs.Suite.Isolation
import PushBench.Proofs.Suite.Surroundings
import Mathlib.Data.List.Forall2

/-!
# Suites of priced sequences

Shared sequences charge the same for every push. A suite of such cases measures every case that is
not longer than its limit at its price times the number of pushes, and names the first of the
cheapest among these as the fastest, whatever its settings are. Arithmetic is exact here.
-/

namespace PushBench

/-! ## Priced sequences -/

/-- A case of shared sequences with a price for every push. -/
structure PricedSequence where
  name : String
  /-- Nanoseconds for every push. -/
  price : Nat
  maxLen : Option Nat

namespace PricedSequence

/-- The adapter of a case. -/
def adapter (entry : PricedSequence) : Adapter Nat (List Element) :=
  .sequence entry.name entry.price entry.maxLen

/-- The case, before it has charged anything. -/
def toCase (entry : PricedSequence) (workload : Workload) : Case :=
  .ofAdapter entry.adapter 0 workload

variable {entry other : PricedSequence} {workload : Workload}

/-- Invocations of a case all take the price of their pushes. -/
theorem steady (entry : PricedSequence) (workload : Workload) :
    Bench.subject.Steady
      (fun bench ↦ ∃ charged, bench.case = .ofAdapter entry.adapter charged workload)
      (workload.len * entry.price) := by
  have hreply (charged : Nat) : (Case.ofAdapter entry.adapter charged workload).run.1 =
      ⟨.ok (), workload.len * entry.price, false, ()⟩ := by
    have htidy : entry.adapter.IsTidy charged :=
      Adapter.isTidy_of_outstanding (fun _ ↦ rfl) charged
    obtain ⟨tidy, hidle, hreleased⟩ := htidy
    calc
      (Case.ofAdapter entry.adapter charged workload).run.1 =
          (Workload.courseFrom (fun _ ↦ none) 0 workload.len).reply entry.price :=
        Case.run_named (Adapter.sequenceRegularity entry.name entry.price entry.maxLen) tidy
          hreleased entry.name workload trivial hidle
      _ = ⟨.ok (), workload.len * entry.price, false, ()⟩ := by
        rw [Workload.courseFrom_none, Nat.mul_comm]
        rfl
  refine ⟨?_, ?_, ?_⟩
  · rintro ⟨case, clock, signalled⟩ ⟨charged, rfl⟩
    exact congrArg Reply.answer (hreply charged)
  · rintro ⟨case, clock, signalled⟩ ⟨charged, rfl⟩
    exact ⟨_, rfl⟩
  · rintro ⟨case, clock, signalled⟩ ⟨charged, rfl⟩
    exact congrArg (clock + Reply.elapsed ·) (hreply charged)

/-- Sampling a case comes to an end, and shows the price of an invocation. -/
theorem exists_measure_eq (entry : PricedSequence) (hprice : 1 ≤ entry.price)
    (hlen : 1 ≤ workload.len) (hfits : workload.fits entry.adapter = true)
    {settings : SamplingSettings EReal} {limit : Nat} (hlimit : max 1 settings.budget ≤ limit)
    (clock : Nat) (signalled : Bool) :
    ∃ measurement after,
      Bench.measure settings limit ⟨entry.toCase workload, clock, signalled⟩ =
        (some ⟨entry.name, .completed measurement⟩, after) ∧
      measurement.Shows (workload.len * entry.price) := by
  have hskip : (entry.toCase workload).skipReason = none :=
    Case.skipReason_named_eq_none_iff.mpr hfits
  let bench : Bench := ⟨entry.toCase workload, clock, signalled⟩
  have hinside : ∃ charged, bench.case = .ofAdapter entry.adapter charged workload := ⟨0, rfl⟩
  obtain ⟨measurement, after, hmeasure, hshows⟩ := Sampler.exists_measure_shows
    (entry.steady workload) Bench.subject_clockAdvances (Nat.mul_pos hlen hprice) hinside
    ((Nat.le_max_left _ _).trans hlimit) ((Nat.le_max_right _ _).trans hlimit)
  refine ⟨measurement, after, ?_, hshows⟩
  simp only [Bench.measure, hskip]
  rw [hmeasure]
  rfl

theorem fits_iff : workload.fits entry.adapter = true ↔
    ∀ limit, entry.maxLen = some limit → workload.len ≤ limit := by
  have hmax : entry.adapter.maxLen = entry.maxLen := rfl
  rw [Workload.fits, hmax]
  cases entry.maxLen <;> simp

/-- The reason for which a case that is longer than its limit is skipped. -/
theorem skipReason_toCase {limit : Nat} (hlimit : entry.maxLen = some limit)
    (hlong : limit < workload.len) :
    (entry.toCase workload).skipReason =
      some s!"{workload.len} pushes exceed the adapter limit of {limit}" := by
  have hmax : entry.adapter.maxLen = some limit := hlimit
  have hfits : ¬workload.fits entry.adapter = true := fun hfits ↦
    Nat.not_le_of_lt hlong (fits_iff.mp hfits limit hlimit)
  have hreason : (entry.toCase workload).skipReason = Case.skipReasonOf entry.adapter workload :=
    rfl
  rw [hreason, Case.skipReasonOf, hmax]
  exact if_neg hfits

/-- A case is measured, or skipped, whatever the clock shows. -/
theorem exists_outcome (entry : PricedSequence) (hprice : 1 ≤ entry.price)
    (hlen : 1 ≤ workload.len) {settings : SamplingSettings EReal} {limit : Nat}
    (hlimit : max 1 settings.budget ≤ limit) (clock : Nat) (signalled : Bool) :
    ∃ outcome, (Bench.measure settings limit ⟨entry.toCase workload, clock, signalled⟩).1 =
      some outcome := by
  cases hskip : (entry.toCase workload).skipReason with
  | some reason => exact ⟨⟨entry.name, .skipped reason⟩, by simp only [Bench.measure, hskip]; rfl⟩
  | none =>
    have hfits := Case.skipReason_named_eq_none_iff.mp hskip
    obtain ⟨measurement, after, hmeasure, -⟩ :=
      entry.exists_measure_eq hprice hlen hfits hlimit clock signalled
    exact ⟨_, congrArg Prod.fst hmeasure⟩

/-- A case is completed, and its measurement shows the price of an invocation. -/
structure Completes (entry : PricedSequence) (workload : Workload) (outcome : CaseOutcome EReal) :
    Prop where
  name_eq : outcome.name = entry.name
  completed : ∃ measurement, outcome.status = .completed measurement ∧
    measurement.Shows (workload.len * entry.price)

/-- What becomes of a case: it is completed, unless it is longer than its limit. -/
structure Settles (entry : PricedSequence) (workload : Workload) (outcome : CaseOutcome EReal) :
    Prop where
  completes : workload.fits entry.adapter = true → entry.Completes workload outcome
  skipped {limit : Nat} : entry.maxLen = some limit → limit < workload.len →
    outcome = ⟨entry.name, .skipped s!"{workload.len} pushes exceed the adapter limit of {limit}"⟩

theorem settles_of_hasOutcome (hprice : 1 ≤ entry.price) (hlen : 1 ≤ workload.len)
    {settings : SamplingSettings EReal} {outcome : CaseOutcome EReal}
    (h : (entry.toCase workload).HasOutcome settings outcome) :
    entry.Settles workload outcome where
  completes hfits := by
    obtain ⟨measurement, after, hmeasure, hshows⟩ :=
      entry.exists_measure_eq hprice hlen hfits (Nat.le_refl (max 1 settings.budget)) 0 false
    have hcompleted : (entry.toCase workload).HasOutcome settings
        ⟨entry.name, .completed measurement⟩ := ⟨_, congrArg Prod.fst hmeasure⟩
    rw [Case.HasOutcome.rightUnique settings h hcompleted]
    exact ⟨rfl, measurement, rfl, hshows⟩
  skipped {limit} hlimit hlong := by
    obtain ⟨steps, hmeasure⟩ := h
    simp only [Bench.measure, skipReason_toCase hlimit hlong] at hmeasure
    exact (Option.some.inj hmeasure).symm

/-- A case that is longer than its limit has no rate. -/
theorem Settles.fits_of_rate {outcome : CaseOutcome EReal} (h : entry.Settles workload outcome)
    {rate : EReal} (hrate : outcome.rate? = some rate) : workload.fits entry.adapter = true := by
  rw [fits_iff]
  intro limit hlimit
  by_contra hlong
  rw [h.skipped hlimit (Nat.lt_of_not_le hlong)] at hrate
  cases hrate

/-- Invocations per second of a case. -/
noncomputable def rate (entry : PricedSequence) (workload : Workload) : EReal :=
  ((1000000000 / (workload.len * entry.price : Nat) : ℝ) : EReal)

theorem Completes.rate_eq {outcome : CaseOutcome EReal} (h : entry.Completes workload outcome) :
    outcome.rate? = some (entry.rate workload) := by
  obtain ⟨measurement, hstatus, hshows⟩ := h.completed
  have hmeasurement : outcome.measurement? = some measurement := by
    rw [CaseOutcome.measurement?, hstatus]
  rw [CaseOutcome.rate?, hmeasurement, Option.map_some, hshows.rate_eq, rate]

/-- The cheaper of two cases has the greater rate. -/
theorem rate_le_iff (hlen : 1 ≤ workload.len) (hprice : 1 ≤ entry.price)
    (hother : 1 ≤ other.price) :
    Scalar.le (entry.rate workload) (other.rate workload) = true ↔ other.price ≤ entry.price := by
  have hnumerator : (0 : ℝ) < 1000000000 := by norm_num
  have htime : (0 : ℝ) < (workload.len * entry.price : Nat) :=
    Nat.cast_pos.mpr (Nat.mul_pos hlen hprice)
  have hotherTime : (0 : ℝ) < (workload.len * other.price : Nat) :=
    Nat.cast_pos.mpr (Nat.mul_pos hlen hother)
  rw [Exact.le_iff, rate, rate, EReal.coe_le_coe_iff,
    div_le_div_iff_of_pos_left hnumerator htime hotherTime, Nat.cast_le]
  exact Nat.mul_le_mul_left_iff hlen

end PricedSequence

/-! ## The cheapest case -/

theorem Exact.ordersAll : Scalar.OrdersAll fun _ : EReal ↦ True where
  total {x y} _ _ := by
    rw [le_iff, le_iff]
    exact le_total x y
  trans {x y z} _ _ _ hxy hyz := by
    rw [le_iff] at hxy hyz ⊢
    exact hxy.trans hyz

/-- The name of the first of the cheapest cases, if there are cases. -/
inductive NamesCheapest : List PricedSequence → Option String → Prop where
  | nobody : NamesCheapest [] none
  | first {before after : List PricedSequence} {entry : PricedSequence}
    (hbefore : ∀ other ∈ before, entry.price < other.price)
    (hafter : ∀ other ∈ after, entry.price ≤ other.price) :
    NamesCheapest (before ++ entry :: after) (some entry.name)

/-- Of the cases that are not too long the first of the cheapest leads. -/
theorem namesCheapest_foldl {entries : List PricedSequence} {workload : Workload}
    {outcomes : List (CaseOutcome EReal)} (hlen : 1 ≤ workload.len)
    (hprice : ∀ entry ∈ entries, 1 ≤ entry.price)
    (h : List.Forall₂ (fun entry outcome ↦ entry.Settles workload outcome) entries outcomes) :
    NamesCheapest (entries.filter fun entry ↦ workload.fits entry.adapter)
      ((outcomes.foldl SuiteResult.faster none).map Prod.fst) := by
  have hleads : SuiteResult.Leads outcomes (outcomes.foldl SuiteResult.faster none) :=
    SuiteResult.leads_foldl Exact.ordersAll fun _ _ _ _ ↦ trivial
  generalize outcomes.foldl SuiteResult.faster none = best at hleads ⊢
  cases hleads with
  | unrated hunrated =>
    have hnone : entries.filter (fun entry ↦ workload.fits entry.adapter) = [] := by
      rw [List.filter_eq_nil_iff]
      intro entry hmem hfits
      obtain ⟨outcome, houtcome, hsettles⟩ := exists_of_forall₂_of_mem h hmem
      cases (hunrated outcome houtcome).symm.trans (hsettles.completes hfits).rate_eq
    rw [hnone]
    exact .nobody
  | @led before after outcome rate hled =>
    obtain ⟨rfl, hrate, hslower, hnotFaster⟩ := hled
    have hbefore := List.forall₂_take_append entries before (outcome :: after) h
    have hrest := List.forall₂_drop_append entries before (outcome :: after) h
    have hentries := (List.take_append_drop before.length entries).symm
    generalize entries.take before.length = first at hbefore hentries
    generalize entries.drop before.length = last at hrest hentries
    cases hrest with
    | @cons entry _ later _ hentry hafter =>
      subst hentries
      have hfits := hentry.fits_of_rate hrate
      have hcompletes := hentry.completes hfits
      obtain rfl : entry.rate workload = rate :=
        Option.some.inj (hcompletes.rate_eq.symm.trans hrate)
      have hcheap := hprice entry (by simp)
      have hkept : (entry :: later).filter (fun entry ↦ workload.fits entry.adapter) =
          entry :: later.filter fun entry ↦ workload.fits entry.adapter :=
        List.filter_cons_of_pos hfits
      rw [List.filter_append, hkept, Option.map_some, hcompletes.name_eq]
      refine .first (fun other hmem ↦ ?_) (fun other hmem ↦ ?_)
      · obtain ⟨hmem, hother⟩ := List.mem_filter.mp hmem
        obtain ⟨partner, hpartner, hsettles⟩ := exists_of_forall₂_of_mem hbefore hmem
        have hlt := hslower hpartner (hsettles.completes hother).rate_eq
        have hnot := (PricedSequence.rate_le_iff hlen hcheap (hprice other (by simp [hmem]))).not
        rw [Bool.not_eq_true] at hnot
        exact Nat.lt_of_not_le (hnot.mp hlt)
      · obtain ⟨hmem, hother⟩ := List.mem_filter.mp hmem
        obtain ⟨partner, hpartner, hsettles⟩ := exists_of_forall₂_of_mem hafter hmem
        have hle := hnotFaster hpartner (hsettles.completes hother).rate_eq
        exact (PricedSequence.rate_le_iff hlen (hprice other (by simp [hmem])) hcheap).mp hle

/-- A suite of priced sequences comes to an end, whatever its settings are and whenever it starts,
and nothing but its surroundings cancels it. If it is not cancelled, it completes every case that is
not longer than its limit, with the price of its pushes as the mean, and with a margin of nothing
unless a single sample leaves it unbounded; it skips the others. The fastest is the first of the
completed cases of the least price. -/
theorem priced_suite_names_cheapest {entries : List PricedSequence} {workload : Workload}
    (hlen : 1 ≤ workload.len) (hprice : ∀ entry ∈ entries, 1 ≤ entry.price) {registry : Registry}
    (hcases : registry.cases = entries.map (·.toCase workload))
    (settings : SamplingSettings EReal) {ω : Type} (surroundings : Surroundings EReal ω)
    (state : SuiteState ω) {limit : Nat} (hlimit : max 1 settings.budget ≤ limit) :
    ∃ run, registry.run settings limit surroundings state = some run ∧
      (surroundings.Quiet → state.cancelRequested = false → run.result.cancelled = false) ∧
      (run.result.cancelled = false →
        List.Forall₂ (fun entry outcome ↦ entry.Settles workload outcome) entries
          run.result.outcomes ∧
        NamesCheapest (entries.filter fun entry ↦ workload.fits entry.adapter)
          run.result.fastest) := by
  have hends : ∀ case ∈ registry.cases, ∀ clock signalled, ∃ outcome,
      (Bench.measure settings limit ⟨case, clock, signalled⟩).1 = some outcome := by
    intro case hmem clock signalled
    rw [hcases] at hmem
    obtain ⟨entry, hentry, rfl⟩ := List.mem_map.mp hmem
    exact entry.exists_outcome (hprice entry hentry) hlen hlimit clock signalled
  obtain ⟨pass, hpass⟩ := Option.isSome_iff_exists.mp (runCases_isSome hends surroundings
    (state.announce surroundings (.started registry.size)))
  have hrun : ∃ run, registry.run settings limit surroundings state = some run ∧
      run.result = .ofOutcomes pass.outcomes pass.cancelled := by
    rw [Registry.run, hpass]
    exact ⟨_, rfl, rfl⟩
  obtain ⟨run, hrun, hresult⟩ := hrun
  refine ⟨run, hrun, fun hquiet hrequested ↦ ?_, fun hcancelled ↦ ?_⟩
  · have hannounced : (state.announce surroundings (.started registry.size)).cancelRequested =
        false := by
      simp only [SuiteState.announce, hrequested, hquiet.notify, Bool.or_self]
    rw [hresult]
    exact hquiet.runCases hannounced hpass
  · have hrunsTo : registry.RunsTo settings run.result :=
      ⟨ω, limit, surroundings, state, run, hrun, rfl⟩
    have houtcomes := hrunsTo.outcomes hcancelled
    rw [hcases, List.forall₂_map_left_iff] at houtcomes
    have hsettles : List.Forall₂ (fun entry outcome ↦ entry.Settles workload outcome) entries
        run.result.outcomes := by
      have hboth := (List.forall₂_and_left entries run.result.outcomes).mpr ⟨hprice, houtcomes⟩
      exact hboth.imp fun entry outcome h ↦ PricedSequence.settles_of_hasOutcome h.1 hlen h.2
    have hnamed := namesCheapest_foldl hlen hprice hsettles
    refine ⟨hsettles, ?_⟩
    rw [hresult] at hnamed ⊢
    exact hnamed

/-- Of two completed cases of the least price the first is named, although a dearer one and one that
is too long come before it. -/
theorem priced_suite_names_cheapest_tie :
    let entries : List PricedSequence :=
      [⟨"a", 3, none⟩, ⟨"d", 1, some 4⟩, ⟨"b", 2, some 5⟩, ⟨"c", 2, none⟩]
    let registry : Registry := ⟨entries.map (·.toCase ⟨5⟩), .ofList (entries.map (·.name))⟩
    let settings : SamplingSettings EReal := ⟨40, 2, 1, 500, .standard⟩
    let surroundings : Surroundings EReal Unit := ⟨fun _ _ ↦ (false, ()), fun _ _ ↦ (false, ())⟩
    ∃ run, registry.run settings 500 surroundings ⟨1000, false, false, ()⟩ = some run ∧
      run.result.cancelled = false ∧
      List.Forall₂ (fun entry outcome ↦ entry.Settles ⟨5⟩ outcome) entries run.result.outcomes ∧
      run.result.fastest = some "b" := by
  intro entries registry settings surroundings
  have hquiet : surroundings.Quiet := ⟨fun _ _ ↦ rfl, fun _ _ ↦ rfl⟩
  have hprice : ∀ entry ∈ entries, 1 ≤ entry.price := by decide
  obtain ⟨run, hrun, hcancelled, hresult⟩ := priced_suite_names_cheapest (by decide) hprice
    (rfl : registry.cases = entries.map (·.toCase ⟨5⟩)) settings surroundings
    ⟨1000, false, false, ()⟩ (by decide : max 1 500 ≤ 500)
  have hdone := hcancelled hquiet rfl
  obtain ⟨hsettles, hnamed⟩ := hresult hdone
  have hmeasured : (entries.filter fun entry ↦ (Workload.mk 5).fits entry.adapter) =
      [⟨"a", 3, none⟩, ⟨"b", 2, some 5⟩, ⟨"c", 2, none⟩] := rfl
  refine ⟨run, hrun, hdone, hsettles, ?_⟩
  rw [hmeasured] at hnamed
  generalize hlist : [_, _, _] = measured at hnamed
  generalize run.result.fastest = fastest at hnamed ⊢
  cases hnamed with
  | nobody => cases hlist
  | @first before after entry hbefore hafter =>
    -- The first case is dearer than the second, and the last one comes after a case of its price.
    rcases before with _ | ⟨first, _ | ⟨second, _ | ⟨third, rest⟩⟩⟩ <;> simp at hlist
    · obtain ⟨rfl, rfl⟩ := hlist
      simp at hafter
    · obtain ⟨rfl, rfl, rfl⟩ := hlist
      rfl
    · obtain ⟨rfl, rfl, rfl, rfl⟩ := hlist
      simp at hbefore

/-- A suite does not complete a case that is longer than its limit, and nothing is the fastest if
there is no other. -/
theorem not_priced_suite_completes :
    let entries : List PricedSequence := [⟨"short", 1, some 2⟩]
    let registry : Registry := ⟨entries.map (·.toCase ⟨5⟩), .ofList (entries.map (·.name))⟩
    let settings : SamplingSettings EReal := ⟨40, 2, 1, 500, .standard⟩
    let surroundings : Surroundings EReal Unit := ⟨fun _ _ ↦ (false, ()), fun _ _ ↦ (false, ())⟩
    ∃ run, registry.run settings 500 surroundings ⟨0, false, false, ()⟩ = some run ∧
      run.result.cancelled = false ∧
      ¬List.Forall₂ (fun entry outcome ↦ entry.Completes ⟨5⟩ outcome) entries
        run.result.outcomes ∧
      run.result.fastest = none := by
  intro entries registry settings surroundings
  refine ⟨_, rfl, rfl, fun hall ↦ ?_, rfl⟩
  obtain ⟨hshort, -⟩ := List.forall₂_cons.mp hall
  obtain ⟨measurement, hstatus, -⟩ := hshort.completed
  cases hstatus

end PushBench
