import PushBench.Proofs.Suite.Alike
import PushBench.Proofs.Suite.Check
import PushBench.Script
import PushBench.Suite.Rehearsal

/-!
# Checks before runs

A check really runs the adapters: it moves the clock on, and leaves other handles, books and slots
behind than it found. If it succeeds, a suite that is run after it cannot tell.
-/

namespace PushBench

/-! ## Standard cases -/

/-- Cases of any body, and those that run a workload on a standard adapter. -/
inductive Case.Standard : Case → Prop where
  | custom {τ : Type} (name : String) (state : τ) (body : τ → Reply Unit τ) :
    Standard (.custom name state body)
  | named {σ η : Type} (label : String) {adapter : Adapter σ η} {state : σ} (workload : Workload)
    (h : adapter.Standard state) : Standard (.named label adapter state workload)

variable {expected : List Element} {case : Case}

/-- A standard case whose contents were built is alike what it was before. -/
theorem Case.Standard.alike_of_materialize (h : case.Standard)
    {reply : Reply (List Element) Unit} {after : Case}
    (hbuilt : case.materialize = some (reply, after)) {elements : List Element}
    (hanswer : reply.answer = .ok elements) : after.Alike case := by
  cases h with
  | custom name state body => cases hbuilt
  | @named σ η label adapter state workload hadapter =>
    cases hbuilt
    rcases hadapter.isTidy_or_isLeaky with ⟨tidy, hidle, hreleased⟩ | hleaky
    · obtain ⟨cost, refusal, regularity, hready⟩ := hadapter.isRegular
      have hended := (regularity.materialize hready workload).holds
      have hafter := regularity.ready_of_ended hended
      have hclean := tidy.materialize hidle workload
      exact ⟨simulationOf regularity tidy hreleased label workload, _, state, ⟨hafter, hclean⟩,
        ⟨hready, hidle⟩, rfl, rfl⟩
    · exact absurd hanswer (hleaky workload elements)

/-- After a check without mismatches, every case is alike what it was before. -/
theorem forall₂_alike_checkCases {cases : List Case} (hstandard : ∀ case ∈ cases, case.Standard)
    (hclean : (checkCases expected cases).mismatches = []) :
    List.Forall₂ Case.Alike (checkCases expected cases).cases cases := by
  induction cases with
  | nil => exact .nil
  | cons case rest ih =>
    have hrest := ih fun other hmem ↦ hstandard other (List.mem_cons_of_mem _ hmem)
    by_cases hchecked : case.IsChecked
    · obtain ⟨reply, after, hbuilt⟩ := Case.exists_materialize_eq hchecked
      rw [checkCases_cons_of_materialize hchecked.1 hbuilt] at hclean ⊢
      dsimp only at hclean
      split at hclean
      next => cases hclean
      next hmissed =>
        have hcase := hstandard case List.mem_cons_self
        obtain ⟨elements, hanswer⟩ : ∃ elements, reply.answer = .ok elements := by
          unfold missed at hmissed
          split at hmissed
          next => cases hmissed
          next elements hanswer => exact ⟨elements, hanswer⟩
        exact .cons (hcase.alike_of_materialize hbuilt hanswer) (hrest hclean)
    · rw [checkCases_cons_of_not hchecked] at hclean ⊢
      exact .cons (.refl case) (hrest hclean)

/-- If a check of cases of any body and of standard adapters succeeds, a suite that is run after it
looks the same from outside as one that is run without the check: it comes to the same result, down
to every sample, in whatever surroundings and however long the check took. Cases that were not made
from an adapter are not touched by the check, which is the same when it is written down. -/
theorem run_after_check_eq {registry : Registry}
    (hstandard : ∀ case ∈ registry.cases, case.Standard) {workload : Workload} {count : Nat}
    {check : EquivalenceCheck} (hcheck : registry.checkEquivalence workload = (.ok count, check)) :
    (∀ {α ω : Type} [Scalar α] (settings : SamplingSettings α) (limit : Nat)
        (surroundings : Surroundings α ω) (state : SuiteState ω),
      (({ registry with cases := check.cases } : Registry).run settings limit surroundings
          (state.delayed check.elapsed)).map SuiteRun.seen =
        (registry.run settings limit surroundings state).map SuiteRun.seen) ∧
    (registry.checkEquivalenceTraced workload).1 = registry.checkEquivalence workload ∧
    ∀ {place : Nat} {case : Case}, registry.cases[place]? = some case → case.kind = none →
      place ∉ (registry.checkEquivalenceTraced workload).2 ∧
        check.cases[place]? = some case := by
  have hdone : check = checkCases workload.expected registry.cases :=
    (congrArg Prod.snd hcheck).symm
  have hclean : (checkCases workload.expected registry.cases).mismatches = [] := by
    have hanswer := congrArg Prod.fst hcheck
    unfold Registry.checkEquivalence EquivalenceCheck.answer at hanswer
    dsimp only at hanswer
    split at hanswer
    next hempty => exact List.isEmpty_iff.mp hempty
    next => cases hanswer
  subst hdone
  refine ⟨fun settings limit surroundings state ↦ ?_,
    registry.checkEquivalenceTraced_fst workload, fun {place case} hcase hkind ↦ ?_⟩
  · exact Registry.run_alike (forall₂_alike_checkCases hstandard hclean) settings limit
      surroundings state
  · have hunchecked : ¬case.IsChecked := by
      cases hstandard case (List.mem_of_getElem? hcase) with
      | custom name state body => simp [Case.IsChecked, Case.custom]
      | named label workload h => cases hkind
    refine ⟨fun hmem ↦ ?_, getElem?_cases_checkCases hcase hunchecked⟩
    obtain ⟨other, hother, hchecked⟩ := mem_checkCasesTraced_iff.mp hmem
    obtain rfl := Option.some.inj (hcase.symm.trans hother)
    exact hunchecked hchecked

/-- The check leaves numbers of handles and a clock behind that have moved on. -/
theorem run_after_check_eq_counted :
    let counted := Adapter.counting "counted" { failPushAt := some 3 }
    let vector := Adapter.sequence "vector" 5 none
    let registry : Registry :=
      ⟨[.ofAdapter counted .start ⟨3⟩, .ofAdapter (.released vector) (.ofInner 0) ⟨3⟩,
        .ofAdapter (.copyArray 2) () ⟨3⟩, Script.toCase "scripted" (.steady 7)],
        .ofList ["counted", "vector-Released", "array", "scripted"]⟩
    let check := (registry.checkEquivalence ⟨3⟩).2
    check.elapsed = 15 ∧
      ∀ (settings : SamplingSettings Float) (limit : Nat)
        (surroundings : Surroundings Float RehearsalRecord),
        (({ registry with cases := check.cases } : Registry).run settings limit surroundings
            ⟨1015, false, false, {}⟩).map SuiteRun.seen =
          (registry.run settings limit surroundings ⟨1000, false, false, {}⟩).map
            SuiteRun.seen := by
  intro counted vector registry check
  have hstandard : ∀ case ∈ registry.cases, case.Standard := by
    intro case hmem
    simp only [registry, List.mem_cons, List.not_mem_nil, or_false] at hmem
    rcases hmem with rfl | rfl | rfl | rfl
    · exact .named _ _ (.counting _ _)
    · exact .named _ _ (.released Slots (.sequence _ _ _ _))
    · exact .named _ _ (.copyArray _)
    · exact .custom _ _ _
  have hcheck : registry.checkEquivalence ⟨3⟩ = (.ok 2, check) := by
    have hanswer : (registry.checkEquivalence ⟨3⟩).1 = .ok 2 := by decide +kernel
    exact Prod.ext hanswer rfl
  have helapsed : check.elapsed = 15 := by decide +kernel
  refine ⟨helapsed, fun settings limit surroundings ↦ ?_⟩
  have hrun := (run_after_check_eq hstandard hcheck).1 settings limit surroundings
    ⟨1000, false, false, {}⟩
  rw [helapsed] at hrun
  exact hrun

end PushBench
