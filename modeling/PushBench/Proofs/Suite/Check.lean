import PushBench.Proofs.CommandLine.Trace

/-!
# Which cases are checked

The check builds the contents of the cases that were made from an adapter and are not to be skipped,
once each and in order. It leaves all other cases as they are, and takes no other time.
-/

namespace PushBench

namespace Case

instance (case : Case) : Decidable case.IsChecked := inferInstanceAs (Decidable (_ ∧ _))

theorem exists_materialize_eq {case : Case} (h : case.IsChecked) :
    ∃ reply after, case.materialize = some (reply, after) := by
  obtain ⟨contents, hcontents⟩ := Option.isSome_iff_exists.mp h.2
  exact ⟨_, _, by rw [materialize, hcontents]; rfl⟩

theorem isChecked_of_materialize {case : Case} (hskip : case.skipReason = none)
    {built : Reply (List Element) Unit × Case} (hbuilt : case.materialize = some built) :
    case.IsChecked := by
  obtain ⟨contents, hcontents, -⟩ := Option.map_eq_some_iff.mp hbuilt
  exact ⟨hskip, by simp [hcontents]⟩

end Case

/-! ## How cases are made -/

namespace Case

/-- A case of any body. -/
def custom {τ : Type} (name : String) (state : τ) (body : τ → Reply Unit τ) : Case where
  name
  kind := none
  skipReason := none
  State := τ
  state
  invoke := body
  contents := none

/-- A case made from an adapter is not to be skipped iff its workload fits the adapter. -/
theorem skipReason_named_eq_none_iff {σ η : Type} {label : String} {adapter : Adapter σ η}
    {state : σ} {workload : Workload} :
    (named label adapter state workload).skipReason = none ↔ workload.fits adapter = true := by
  have hreason : (named label adapter state workload).skipReason = skipReasonOf adapter workload :=
    rfl
  rw [hreason, skipReasonOf]
  split
  next limit hlimit => simp
  next hunlimited => simp [Workload.fits, hunlimited]

end Case

variable {expected : List Element} {case : Case}

/-! ## One case -/

/-- A case that is checked comes to the other cases with what it built. -/
theorem checkCases_cons_of_materialize (hskip : case.skipReason = none)
    {reply : Reply (List Element) Unit} {after : Case}
    (hbuilt : case.materialize = some (reply, after)) (rest : List Case) :
    checkCases expected (case :: rest) =
      { checked := (checkCases expected rest).checked + 1
        mismatches :=
          match missed expected reply.answer with
          | some detail => ⟨after.name, detail⟩ :: (checkCases expected rest).mismatches
          | none => (checkCases expected rest).mismatches
        elapsed := reply.elapsed + (checkCases expected rest).elapsed
        cases := after :: (checkCases expected rest).cases } := by
  cases hmissed : missed expected reply.answer <;>
    simp only [checkCases, hskip, hbuilt, hmissed]

/-- A case that is not checked stays as it is. -/
theorem checkCases_cons_of_not (h : ¬case.IsChecked) (rest : List Case) :
    checkCases expected (case :: rest) =
      { checkCases expected rest with cases := case :: (checkCases expected rest).cases } := by
  rw [checkCases]
  cases hskip : case.skipReason with
  | some reason => rfl
  | none =>
    cases hbuilt : case.materialize with
    | some built => exact absurd (Case.isChecked_of_materialize hskip hbuilt) h
    | none => rfl

/-- A case adds its place to those whose contents are built if it is checked. -/
theorem checkCasesTraced_cons_snd (first : Nat) (case : Case) (rest : List Case) :
    (checkCasesTraced expected first (case :: rest)).2 =
      if case.IsChecked then first :: (checkCasesTraced expected (first + 1) rest).2
      else (checkCasesTraced expected (first + 1) rest).2 := by
  by_cases h : case.IsChecked
  · obtain ⟨reply, after, hbuilt⟩ := Case.exists_materialize_eq h
    simp only [checkCasesTraced, h.1, hbuilt, if_pos h]
  · rw [if_neg h, checkCasesTraced]
    cases hskip : case.skipReason with
    | some reason => rfl
    | none =>
      cases hbuilt : case.materialize with
      | some built => exact absurd (Case.isChecked_of_materialize hskip hbuilt) h
      | none => rfl

/-! ## All cases -/

/-- The places of the cases that are checked, in order. -/
theorem checkCasesTraced_snd (expected : List Element) (first : Nat) (cases : List Case) :
    (checkCasesTraced expected first cases).2 =
      ((cases.zipIdx first).filter fun entry ↦ decide entry.1.IsChecked).map Prod.snd := by
  induction cases generalizing first with
  | nil => rfl
  | cons case rest ih =>
    rw [checkCasesTraced_cons_snd, List.zipIdx_cons, List.filter_cons, ih]
    by_cases h : case.IsChecked <;> simp [h]

theorem mem_checkCasesTraced_iff {cases : List Case} {place : Nat} :
    place ∈ (checkCasesTraced expected 0 cases).2 ↔
      ∃ case, cases[place]? = some case ∧ case.IsChecked := by
  simp [checkCasesTraced_snd, List.mem_zipIdx_iff_getElem?]

/-- Every case comes out of the check: as it was, if its contents are not built. -/
theorem getElem?_cases_checkCases {cases : List Case} {place : Nat}
    (hcase : cases[place]? = some case) (h : ¬case.IsChecked) :
    (checkCases expected cases).cases[place]? = some case := by
  induction cases generalizing place with
  | nil => simp at hcase
  | cons first rest ih =>
    cases place with
    | zero =>
      obtain rfl : first = case := by simpa using hcase
      rw [checkCases_cons_of_not h]
      rfl
    | succ place =>
      have hlater := ih (by simpa using hcase)
      by_cases hfirst : first.IsChecked
      · obtain ⟨reply, after, hbuilt⟩ := Case.exists_materialize_eq hfirst
        rw [checkCases_cons_of_materialize hfirst.1 hbuilt]
        exact hlater
      · rw [checkCases_cons_of_not hfirst]
        exact hlater

end PushBench
