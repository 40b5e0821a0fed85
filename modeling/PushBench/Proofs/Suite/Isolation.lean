import PushBench.Filter.Plan
import PushBench.Proofs.Suite.Alone
import PushBench.Script
import Mathlib.Data.List.Perm.Basic

/-!
# Isolation of cases

In a suite that is not cancelled every case has the outcome it has alone, whatever ran before it
and whatever the clock showed. Outcomes therefore do not change when cases are left out or
registered in another order.
-/

namespace PushBench

universe u v

variable {α ω : Type} [Scalar α] {settings : SamplingSettings α} {limit : Nat}
  {surroundings : Surroundings α ω}

/-- An element of one list has a partner in the other. -/
theorem exists_of_forall₂_of_mem {β : Type u} {γ : Type v} {related : β → γ → Prop} {first : List β}
    {second : List γ} (h : List.Forall₂ related first second) {item : β} (hmem : item ∈ first) :
    ∃ partner ∈ second, related item partner := by
  induction h with
  | nil => cases hmem
  | @cons head partner rest others hhead _ ih =>
    rcases List.mem_cons.mp hmem with rfl | hrest
    · exact ⟨partner, List.mem_cons_self, hhead⟩
    · obtain ⟨found, hfound, hrelated⟩ := ih hrest
      exact ⟨found, List.mem_cons_of_mem _ hfound, hrelated⟩

/-- A pass yields the outcomes of its first cases, and those of all cases unless it was
cancelled. -/
structure SuitePass.Faithful (settings : SamplingSettings α) (cases : List Case)
    (pass : SuitePass α ω) : Prop where
  outcomes : List.Forall₂ (Case.HasOutcome settings) (cases.take pass.outcomes.length) pass.outcomes
  length_eq : pass.cancelled = false → pass.outcomes.length = cases.length

theorem runCases_faithful {cases : List Case} {state : SuiteState ω} {pass : SuitePass α ω}
    (h : runCases settings limit surroundings cases state = some pass) :
    pass.Faithful settings cases := by
  induction cases generalizing state pass with
  | nil =>
    cases h
    exact ⟨.nil, fun _ ↦ rfl⟩
  | cons case rest ih =>
    rw [runCases] at h
    split at h
    next =>
      cases h
      exact ⟨.nil, fun hcancelled ↦ by cases hcancelled⟩
    next =>
      split at h
      next => cases h
      next outcome bench hmeasure =>
        obtain ⟨later, hlater, rfl⟩ := Option.map_eq_some_iff.mp h
        obtain ⟨houtcomes, hlength⟩ := ih hlater
        have houtcome := Bench.hasOutcome_of_measure (congrArg Prod.fst hmeasure)
        exact ⟨.cons houtcome houtcomes, fun hcancelled ↦ congrArg (· + 1) (hlength hcancelled)⟩

/-- Cases that come to an end alone make a suite that comes to an end. -/
theorem runCases_isSome {cases : List Case}
    (h : ∀ case ∈ cases, ∀ clock signalled, ∃ outcome,
      (Bench.measure settings limit ⟨case, clock, signalled⟩).1 = some outcome)
    (surroundings : Surroundings α ω) (state : SuiteState ω) :
    (runCases settings limit surroundings cases state).isSome := by
  induction cases generalizing state with
  | nil => rfl
  | cons case rest ih =>
    rw [runCases]
    dsimp only
    split
    next => rfl
    next =>
      have hrest := ih fun other hmem ↦ h other (List.mem_cons_of_mem _ hmem)
      split
      next hmeasure =>
        obtain ⟨outcome, houtcome⟩ := h case List.mem_cons_self _ _
        rw [hmeasure] at houtcome
        cases houtcome
      next => rw [Option.isSome_map, hrest]

/-- A registry came to a result in some surroundings, from some state of the clock on. -/
def Registry.RunsTo (registry : Registry) (settings : SamplingSettings α) (result : SuiteResult α) :
    Prop :=
  ∃ (ω : Type) (limit : Nat) (surroundings : Surroundings α ω) (state : SuiteState ω)
    (run : SuiteRun α ω),
    registry.run settings limit surroundings state = some run ∧ run.result = result

namespace Registry.RunsTo

variable {registry other : Registry} {result otherResult : SuiteResult α}

/-- Every case of a suite that was not cancelled has the outcome it has alone. -/
theorem outcomes (h : registry.RunsTo settings result) (hcancelled : result.cancelled = false) :
    List.Forall₂ (Case.HasOutcome settings) registry.cases result.outcomes := by
  obtain ⟨ω, limit, surroundings, state, run, hrun, rfl⟩ := h
  obtain ⟨pass, hpass, rfl⟩ := Option.map_eq_some_iff.mp hrun
  obtain ⟨houtcomes, hlength⟩ := runCases_faithful hpass
  rw [hlength hcancelled, List.take_length] at houtcomes
  exact houtcomes

/-- The outcomes of a suite are the first of those that its cases have alone, and all of them unless
it was cancelled. -/
theorem outcomes_prefix (h : registry.RunsTo settings result) {outcomes : List (CaseOutcome α)}
    (hall : List.Forall₂ (Case.HasOutcome settings) registry.cases outcomes) :
    result.outcomes <+: outcomes ∧ (result.cancelled = false → result.outcomes = outcomes) := by
  have hunique := Case.HasOutcome.rightUnique settings
  refine ⟨?_, fun hcancelled ↦ List.right_unique_forall₂' hunique (h.outcomes hcancelled) hall⟩
  obtain ⟨ω, limit, surroundings, state, run, hrun, rfl⟩ := h
  obtain ⟨pass, hpass, rfl⟩ := Option.map_eq_some_iff.mp hrun
  have hfirst := List.forall₂_take pass.outcomes.length hall
  change pass.outcomes <+: outcomes
  rw [List.right_unique_forall₂' hunique (runCases_faithful hpass).outcomes hfirst]
  exact List.take_prefix _ _

/-- A case that two registries share has the same outcome in both. -/
theorem outcome_eq (h : registry.RunsTo settings result) (hcancelled : result.cancelled = false)
    (hother : other.RunsTo settings otherResult) (hotherCancelled : otherResult.cancelled = false)
    {case : Case} {outcome otherOutcome : CaseOutcome α}
    (hmem : (case, outcome) ∈ registry.cases.zip result.outcomes)
    (hotherMem : (case, otherOutcome) ∈ other.cases.zip otherResult.outcomes) :
    outcome = otherOutcome := by
  have houtcome := List.forall₂_zip (h.outcomes hcancelled) hmem
  have hotherOutcome := List.forall₂_zip (hother.outcomes hotherCancelled) hotherMem
  exact Case.HasOutcome.rightUnique settings houtcome hotherOutcome

/-- A filter leaves the outcomes of the cases that it selects. -/
theorem outcomes_filtered {pattern : Pattern} {narrowed : SuiteResult α}
    (h : registry.RunsTo settings result) (hcancelled : result.cancelled = false)
    (hnarrowed : (registry.filtered (some pattern)).RunsTo settings narrowed)
    (hnarrowedCancelled : narrowed.cancelled = false) :
    narrowed.outcomes =
      result.outcomes.filter fun outcome ↦ pattern.matchesIn outcome.name.toList := by
  have hselects {case : Case} {outcome : CaseOutcome α}
      (houtcome : case.HasOutcome settings outcome) :
      pattern.selects case = true ↔ pattern.matchesIn outcome.name.toList = true := by
    rw [houtcome.name_eq, Pattern.selects]
  have hfiltered := List.rel_filter (fun _ _ houtcome ↦ hselects houtcome) (h.outcomes hcancelled)
  have hnarrowedOutcomes := hnarrowed.outcomes hnarrowedCancelled
  exact List.right_unique_forall₂' (Case.HasOutcome.rightUnique settings) hnarrowedOutcomes
    hfiltered

/-- The same cases in another order have the same outcomes in that order. -/
theorem outcomes_perm (h : registry.RunsTo settings result) (hcancelled : result.cancelled = false)
    (hcases : other.cases.Perm registry.cases) (hother : other.RunsTo settings otherResult)
    (hotherCancelled : otherResult.cancelled = false) :
    otherResult.outcomes.Perm result.outcomes := by
  obtain ⟨outcomes, houtcomes, hperm⟩ :=
    List.perm_comp_forall₂ hcases (h.outcomes hcancelled)
  have heq := List.right_unique_forall₂' (Case.HasOutcome.rightUnique settings)
    (hother.outcomes hotherCancelled) houtcomes
  rw [heq]
  exact hperm

end Registry.RunsTo

/-- In a suite that is not cancelled every case has the outcome that it has alone on a clock that
starts at zero, whatever the other cases do, whatever surrounds the suite and whatever the clock
shows at its start. A suite of cases that come to an end alone comes to an end. Filtering the
registry leaves the selected outcomes, and another order of registration leaves every case its
outcome. -/
theorem suite_isolates_cases (registry : Registry) (settings : SamplingSettings α)
    (hends : ∀ case ∈ registry.cases, ∃ outcome, case.HasOutcome settings outcome) :
    (∃ limit, ∀ (ω : Type) (surroundings : Surroundings α ω) (state : SuiteState ω)
        (other : Registry), other.cases ⊆ registry.cases →
      ∃ run, other.run settings limit surroundings state = some run) ∧
    ∀ result : SuiteResult α, registry.RunsTo settings result → result.cancelled = false →
      List.Forall₂ (Case.HasOutcome settings) registry.cases result.outcomes ∧
      (∀ (pattern : Pattern) (narrowed : SuiteResult α),
        (registry.filtered (some pattern)).RunsTo settings narrowed → narrowed.cancelled = false →
          narrowed.outcomes =
            result.outcomes.filter fun outcome ↦ pattern.matchesIn outcome.name.toList) ∧
      ∀ (other : Registry) (otherResult : SuiteResult α), other.cases.Perm registry.cases →
        other.RunsTo settings otherResult → otherResult.cancelled = false →
          otherResult.outcomes.Perm result.outcomes ∧
            ∀ case outcome otherOutcome, (case, outcome) ∈ registry.cases.zip result.outcomes →
              (case, otherOutcome) ∈ other.cases.zip otherResult.outcomes →
                outcome = otherOutcome := by
  constructor
  · obtain ⟨limit, hlimit⟩ := exists_limit hends
    refine ⟨limit, fun ω surroundings state other hsubset ↦ ?_⟩
    have hpass := runCases_isSome (fun case hmem ↦ hlimit case (hsubset hmem)) surroundings
      (state.announce surroundings (.started other.size))
    obtain ⟨pass, hpass⟩ := Option.isSome_iff_exists.mp hpass
    exact ⟨_, by rw [Registry.run, hpass]; rfl⟩
  · intro result hresult hcancelled
    refine ⟨hresult.outcomes hcancelled, ?_, ?_⟩
    · intro pattern narrowed hnarrowed hnarrowedCancelled
      exact hresult.outcomes_filtered hcancelled hnarrowed hnarrowedCancelled
    · intro other otherResult hcases hother hotherCancelled
      refine ⟨hresult.outcomes_perm hcancelled hcases hother hotherCancelled, ?_⟩
      intro case outcome otherOutcome hmem hotherMem
      exact hresult.outcome_eq hcancelled hother hotherCancelled hmem hotherMem

/-- A case after one that panics has its own outcome, although the clock has moved on. -/
theorem suite_isolates_cases_after_panic :
    let settings : SamplingSettings Float := ⟨25, 2, 100.0, 60, .standard⟩
    let broken := Script.toCase "broken" (.ofEvents #[5] none [⟨3, .panicked "out of patience"⟩])
    let steady := Script.toCase "steady" (.steady 10)
    let registry : Registry := ⟨[broken, steady], .ofList ["broken", "steady"]⟩
    ∃ result : SuiteResult Float, registry.RunsTo settings result ∧ result.cancelled = false ∧
      result.outcomes.map CaseOutcome.isFailed = [true, false] ∧
      List.Forall₂ (Case.HasOutcome settings) registry.cases result.outcomes := by
  intro settings broken steady registry
  let surroundings : Surroundings Float Unit := ⟨fun _ _ ↦ (false, ()), fun _ _ ↦ (false, ())⟩
  let state : SuiteState Unit := ⟨1000, false, false, ()⟩
  have hends : ∀ case ∈ registry.cases, ∃ outcome, case.HasOutcome settings outcome := by
    have hbroken : (Bench.measure settings 2 ⟨broken, 0, false⟩).1.isSome := by decide +kernel
    have hsteady : (Bench.measure settings 2 ⟨steady, 0, false⟩).1.isSome := by decide +kernel
    obtain ⟨brokenOutcome, hbroken⟩ := Option.isSome_iff_exists.mp hbroken
    obtain ⟨steadyOutcome, hsteady⟩ := Option.isSome_iff_exists.mp hsteady
    intro case hmem
    rcases List.mem_pair.mp hmem with rfl | rfl
    · exact ⟨brokenOutcome, 2, hbroken⟩
    · exact ⟨steadyOutcome, 2, hsteady⟩
  have hrun : (registry.run settings 2 surroundings state).map
      (fun run ↦ (run.result.cancelled, run.result.outcomes.map CaseOutcome.isFailed)) =
        some (false, [true, false]) := by decide +kernel
  obtain ⟨run, hrun, hparts⟩ := Option.map_eq_some_iff.mp hrun
  obtain ⟨hcancelled, hfailed⟩ := Prod.mk.inj hparts
  have hruns : registry.RunsTo settings run.result :=
    ⟨Unit, 2, surroundings, state, run, hrun, rfl⟩
  have hisolated := (suite_isolates_cases registry settings hends).2 run.result hruns hcancelled
  exact ⟨run.result, hruns, hcancelled, hfailed, hisolated.1⟩

end PushBench
