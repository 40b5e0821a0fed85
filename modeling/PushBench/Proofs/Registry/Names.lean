import Mathlib.Data.List.Induction
import Mathlib.Data.List.Nodup
import Mathlib.Tactic.Tauto
import PushBench.Filter.Plan
import PushBench.PushSuite

/-!
# Names of registered cases

A registry keeps the names of its cases twice: with the cases, and in a set that tells quickly
whether a name is taken. Whatever is registered and selected, both say the same, and no two cases
have the same name.
-/

namespace PushBench

/-- A step in the making of a registry. -/
inductive RegistryStep : Type 1 where
  /-- A case is registered, whatever it was made from. -/
  | add (case : Case)
  /-- A workload on an adapter is registered under the adapter's name. -/
  | addAdapter {σ η : Type} (adapter : Adapter σ η) (state : σ) (workload : Workload)
  | addPushSuite (workload : Workload)
  | select (accepts : Case → Bool)
  | filter (filter : Option Pattern)

namespace Registry

/-- What a registration leaves: the registry with the new case, or the registry as it was. -/
def settle (registry : Registry) :
    Except DuplicateName Registry → Option DuplicateName × Registry
  | .ok next => (none, next)
  | .error error => (some error, registry)

/-- Takes one step, and says which name was taken, if one was. -/
def step (registry : Registry) : RegistryStep → Option DuplicateName × Registry
  | .add case => registry.settle (registry.add case)
  | .addAdapter adapter state workload =>
    registry.settle (registry.addAdapter adapter state workload)
  | .addPushSuite workload => PushSuite.register registry workload
  | .select accepts => (none, registry.select accepts)
  | .filter filter => (none, registry.filtered filter)

/-- The registry that steps make from one without cases. -/
def ofSteps (steps : List RegistryStep) : Registry :=
  steps.foldl (fun registry step ↦ (registry.step step).2) .empty

/-- A case of the registry has the name. -/
def IsTaken (registry : Registry) (name : String) : Prop :=
  name ∈ registry.cases.map Case.name

/-- The set of names holds the names of the cases, and these are distinct. -/
structure Consistent (registry : Registry) : Prop where
  contains_iff (name : String) : registry.names.contains name = true ↔ registry.IsTaken name
  nodup : (registry.cases.map Case.name).Nodup

/-- How cases are registered one after the other: all of them if no name is taken, and otherwise
those before the first whose name is. -/
inductive Admits (registry : Registry) (cases : List Case) :
    Option DuplicateName × Registry → Prop where
  | all (next : Registry) (hfree : ∀ case ∈ cases, ¬registry.IsTaken case.name)
    (hcases : next.cases = registry.cases ++ cases) : Admits registry cases (none, next)
  | upTo (before : List Case) (case : Case) (rest : List Case) (next : Registry)
    (hsplit : cases = before ++ case :: rest)
    (hfree : ∀ other ∈ before, ¬registry.IsTaken other.name)
    (htaken : registry.IsTaken case.name) (hcases : next.cases = registry.cases ++ before) :
    Admits registry cases (some ⟨case.name⟩, next)

theorem consistent_empty : empty.Consistent where
  contains_iff name := by simp [empty, IsTaken]
  nodup := .nil

theorem isTaken_concat {registry next : Registry} {case : Case}
    (hcases : next.cases = registry.cases ++ [case]) (name : String) :
    next.IsTaken name ↔ registry.IsTaken name ∨ name = case.name := by
  simp [IsTaken, hcases]

namespace Consistent

variable {registry : Registry}

/-! ## One case -/

theorem add_of_isTaken (h : registry.Consistent) {case : Case}
    (htaken : registry.IsTaken case.name) : registry.add case = .error ⟨case.name⟩ := by
  rw [Registry.add, if_pos ((h.contains_iff case.name).mpr htaken)]

/-- A case whose name is free goes to the end. -/
theorem exists_add_eq (h : registry.Consistent) {case : Case}
    (hfree : ¬registry.IsTaken case.name) :
    ∃ next, registry.add case = .ok next ∧ next.cases = registry.cases ++ [case] ∧
      next.Consistent := by
  have hcontains : ¬registry.names.contains case.name = true := by
    rwa [h.contains_iff]
  refine ⟨_, if_neg hcontains, rfl, ?_, ?_⟩
  · intro name
    rw [isTaken_concat rfl, Std.HashSet.contains_insert, Bool.or_eq_true, beq_iff_eq,
      h.contains_iff]
    tauto
  · rw [List.map_append, List.nodup_append]
    refine ⟨h.nodup, by simp, ?_⟩
    intro name hname other hother heq
    rw [List.map_singleton, List.mem_singleton] at hother
    apply hfree
    rwa [← hother, ← heq]

/-- Registering a workload on an adapter is registering the case that is made of them. -/
theorem addAdapter_eq {σ η : Type} (h : registry.Consistent) (adapter : Adapter σ η) (state : σ)
    (workload : Workload) :
    registry.addAdapter adapter state workload =
      registry.add (.ofAdapter adapter state workload) := by
  unfold addAdapter
  split
  next htaken =>
    have htaken : registry.IsTaken (Case.ofAdapter adapter state workload).name :=
      (h.contains_iff adapter.name).mp htaken
    exact (h.add_of_isTaken htaken).symm
  next => rfl

theorem settle_add (h : registry.Consistent) (case : Case) :
    (registry.settle (registry.add case)).2.Consistent := by
  by_cases htaken : registry.IsTaken case.name
  · rw [h.add_of_isTaken htaken]
    exact h
  · obtain ⟨next, hadd, -, hnext⟩ := h.exists_add_eq htaken
    rw [hadd]
    exact hnext

/-- A name belongs to one case at most. -/
theorem eq_of_name_eq (h : registry.Consistent) {case other : Case} (hcase : case ∈ registry.cases)
    (hother : other ∈ registry.cases) (hname : case.name = other.name) : case = other :=
  List.inj_on_of_nodup_map h.nodup hcase hother hname

theorem get?_eq_some_iff (h : registry.Consistent) (name : String) (case : Case) :
    registry.get? name = some case ↔ case ∈ registry.cases ∧ case.name = name := by
  constructor
  · intro hfound
    exact ⟨List.mem_of_find?_eq_some hfound, by simpa using List.find?_some hfound⟩
  · rintro ⟨hmem, rfl⟩
    have hsome : (registry.get? case.name).isSome :=
      List.find?_isSome.mpr ⟨case, hmem, beq_self_eq_true _⟩
    obtain ⟨found, hfound⟩ := Option.isSome_iff_exists.mp hsome
    have hname : found.name = case.name := by simpa using List.find?_some hfound
    rw [hfound, h.eq_of_name_eq (List.mem_of_find?_eq_some hfound) hmem hname]

theorem isSome_get?_iff (h : registry.Consistent) (name : String) :
    (registry.get? name).isSome ↔ registry.IsTaken name := by
  simp only [Option.isSome_iff_exists, h.get?_eq_some_iff, IsTaken, List.mem_map]

/-! ## Several cases -/

/-- The names of the cases that are left are the ones in the new set. -/
theorem select (h : registry.Consistent) (accepts : Case → Bool) :
    (registry.select accepts).Consistent where
  contains_iff name := by simp [Registry.select, IsTaken]
  nodup := h.nodup.sublist ((List.filter_sublist).map Case.name)

/-- The name of a case that was not accepted is free again. -/
theorem not_isTaken_select (h : registry.Consistent) {accepts : Case → Bool} {case : Case}
    (hmem : case ∈ registry.cases) (hdropped : accepts case = false) :
    ¬(registry.select accepts).IsTaken case.name := by
  intro htaken
  obtain ⟨other, hother, hname⟩ := List.mem_map.mp htaken
  obtain ⟨hother, haccepted⟩ := List.mem_filter.mp hother
  rw [h.eq_of_name_eq hother hmem hname, hdropped] at haccepted
  cases haccepted

theorem addAll (h : registry.Consistent) (cases : List Case) :
    (PushSuite.addAll registry cases).2.Consistent := by
  induction cases generalizing registry with
  | nil => exact h
  | cons case rest ih =>
    rw [PushSuite.addAll]
    by_cases htaken : registry.IsTaken case.name
    · rw [h.add_of_isTaken htaken]
      exact h
    · obtain ⟨next, hadd, -, hnext⟩ := h.exists_add_eq htaken
      rw [hadd]
      exact ih hnext

/-- Cases of distinct names are registered up to the first whose name was taken before. -/
theorem admits_addAll (h : registry.Consistent) {cases : List Case}
    (hnodup : (cases.map Case.name).Nodup) :
    registry.Admits cases (PushSuite.addAll registry cases) := by
  induction cases generalizing registry with
  | nil => exact .all registry (by simp) (by simp)
  | cons case rest ih =>
    obtain ⟨hcase, hrest⟩ := List.nodup_cons.mp hnodup
    rw [PushSuite.addAll]
    by_cases htaken : registry.IsTaken case.name
    · rw [h.add_of_isTaken htaken]
      exact .upTo [] case rest registry rfl (by simp) htaken (by simp)
    · obtain ⟨next, hadd, hcases, hnext⟩ := h.exists_add_eq htaken
      rw [hadd]
      dsimp only
      -- the case that was just registered takes no name from those after it
      have hother {other : Case} (hmem : other ∈ rest) :
          next.IsTaken other.name ↔ registry.IsTaken other.name := by
        have hname : other.name ≠ case.name := fun heq ↦
          hcase (heq ▸ List.mem_map_of_mem hmem)
        rw [isTaken_concat hcases, or_iff_left hname]
      have hlater := ih hnext hrest
      generalize PushSuite.addAll next rest = outcome at hlater
      cases hlater with
      | all last hfree hlast =>
        refine .all last (fun other hmem ↦ ?_) (by simp [hlast, hcases])
        rcases List.mem_cons.mp hmem with rfl | hmem
        · exact htaken
        · exact (hother hmem).not.mp (hfree other hmem)
      | upTo before later rest' last hsplit hfree hlater hlast =>
        subst hsplit
        refine .upTo (case :: before) later rest' last rfl (fun other hmem ↦ ?_) ?_
          (by simp [hlast, hcases])
        · rcases List.mem_cons.mp hmem with rfl | hmem
          · exact htaken
          · exact (hother (List.mem_append_left _ hmem)).not.mp (hfree other hmem)
        · exact (hother (List.mem_append_right _ List.mem_cons_self)).mp hlater

/-! ## Steps -/

theorem exists_step_add_eq (h : registry.Consistent) {case : Case}
    (hfree : ¬registry.IsTaken case.name) :
    ∃ next, registry.step (.add case) = (none, next) ∧ next.cases = registry.cases ++ [case] := by
  obtain ⟨next, hadd, hcases, -⟩ := h.exists_add_eq hfree
  exact ⟨next, by rw [Registry.step, hadd]; rfl, hcases⟩

theorem step (h : registry.Consistent) (step : RegistryStep) :
    (registry.step step).2.Consistent := by
  cases step with
  | add case => exact h.settle_add case
  | addAdapter adapter state workload =>
    rw [Registry.step, h.addAdapter_eq]
    exact h.settle_add _
  | addPushSuite workload => exact h.addAll _
  | select accepts => exact h.select accepts
  | filter filter =>
    cases filter with
    | none => exact h
    | some pattern => exact h.select pattern.selects

end Consistent

/-- Whatever steps a registry was made in, it is consistent. -/
theorem consistent_ofSteps (steps : List RegistryStep) : (ofSteps steps).Consistent := by
  induction steps using List.reverseRecOn with
  | nil => exact consistent_empty
  | append_singleton steps step ih =>
    rw [ofSteps, List.foldl_append]
    exact ih.step step

end Registry

/-- The six names of the push suite. -/
theorem PushSuite.map_name_cases (workload : Workload) :
    (PushSuite.cases workload).map Case.name =
      ["rpds.Vector", "rpds.VectorSync", "im.Vector", "array", "rpds.Vector-Released",
        "im.Vector-Released"] := by
  rfl

/-- Whatever steps a registry was made in, its set of names holds the names of its cases, which are
distinct. A case is registered at the end if its name is free; otherwise its name is reported and
the registry stays as it was. A workload on an adapter is registered as the case made of them. Every
name finds the only case that has it, if there is one. Selecting leaves the accepted cases in their
order and frees the names of the others. The push suite is registered up to the first of its six
cases whose name was taken before, which is reported. -/
theorem registry_keeps_names (steps : List RegistryStep) :
    let registry := Registry.ofSteps steps
    registry.Consistent ∧
      (∀ case : Case,
        (¬registry.IsTaken case.name → ∃ next, registry.step (.add case) = (none, next) ∧
          next.cases = registry.cases ++ [case]) ∧
        (registry.IsTaken case.name → registry.step (.add case) = (some ⟨case.name⟩, registry))) ∧
      (∀ {σ η : Type} (adapter : Adapter σ η) (state : σ) (workload : Workload),
        registry.step (.addAdapter adapter state workload) =
          registry.step (.add (.ofAdapter adapter state workload))) ∧
      (∀ name, ((registry.get? name).isSome ↔ registry.IsTaken name) ∧
        ∀ case, registry.get? name = some case ↔ case ∈ registry.cases ∧ case.name = name) ∧
      (∀ accepts, (registry.step (.select accepts)).2.cases = registry.cases.filter accepts ∧
        ∀ case ∈ registry.cases, accepts case = false → ∀ other : Case, other.name = case.name →
          ∃ next, (registry.step (.select accepts)).2.step (.add other) = (none, next)) ∧
      (∀ filter, (registry.step (.filter filter)).2.cases =
        registry.cases.filter fun case ↦ filter.all fun pattern ↦ pattern.selects case) ∧
      ∀ workload, registry.Admits (PushSuite.cases workload)
          (registry.step (.addPushSuite workload)) ∧
        (PushSuite.cases workload).map Case.name =
          ["rpds.Vector", "rpds.VectorSync", "im.Vector", "array", "rpds.Vector-Released",
            "im.Vector-Released"] := by
  intro registry
  have h : registry.Consistent := Registry.consistent_ofSteps steps
  refine ⟨h, fun case ↦ ⟨h.exists_step_add_eq, fun htaken ↦ ?_⟩, fun adapter state workload ↦ ?_,
    fun name ↦ ⟨h.isSome_get?_iff name, h.get?_eq_some_iff name⟩, fun accepts ↦ ⟨rfl, ?_⟩,
    fun filter ↦ ?_, fun workload ↦ ⟨?_, PushSuite.map_name_cases workload⟩⟩
  · rw [Registry.step, h.add_of_isTaken htaken]
    rfl
  · exact congrArg registry.settle (h.addAdapter_eq adapter state workload)
  · intro case hmem hdropped other hname
    have hother : ¬(registry.select accepts).IsTaken other.name := by
      rw [hname]
      exact h.not_isTaken_select hmem hdropped
    obtain ⟨next, hstep, -⟩ := (h.select accepts).exists_step_add_eq hother
    exact ⟨next, hstep⟩
  · cases filter with
    | none => simp [Registry.step, Registry.filtered]
    | some pattern => rfl
  · apply h.admits_addAll
    rw [PushSuite.map_name_cases]
    decide

end PushBench
