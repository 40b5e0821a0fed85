import PushBench.Proofs.Sampling.Limit
import PushBench.Proofs.Sampling.Row
import PushBench.Proofs.Suite.Order
import PushBench.Proofs.Suite.Surroundings

/-!
# The first failure of a case

Up to its first failure a body is measured as if it never failed. So either the measurement is
complete before the body would fail, and then it is the one of the body that never fails; or the
case fails with that first failure, its body is not invoked again, and the suite goes on with the
other cases.
-/

namespace PushBench

/-! ## Endings -/

/-- How an invocation of a body ends. -/
inductive CallEnding where
  | succeeds
  | fails (error : CaseError)
  | panics (payload : PanicPayload)

namespace CallEnding

/-- The error of an ending. A panic is caught and counts as an error. -/
def failure : CallEnding → Option CaseError
  | .succeeds => none
  | .fails error => some error
  | .panics payload => some (.panicked payload.message)

/-- Which failure is reported for an ending: its category and its message. -/
inductive Reports : CallEnding → FailureKind → String → Prop where
  | releaseProtocol (violation : ProtocolViolation) :
    Reports (.fails (.releaseProtocol violation)) .releaseProtocol
      ("release protocol violation: " ++ violation.message)
  | execution (message : String) : Reports (.fails (.execution message)) .execution message
  | panicked (message : String) : Reports (.fails (.panicked message)) .panicked message
  | fixed (text : String) : Reports (.panics (.fixed text)) .panicked text
  | composed (text : String) : Reports (.panics (.composed text)) .panicked text
  | other : Reports (.panics .other) .panicked "Unknown panic"

variable {α : Type}

theorem exists_reports {ending : CallEnding} (h : ending ≠ .succeeds) :
    ∃ error kind message, ending.failure = some error ∧ ending.Reports kind message ∧
      error.toStatus = (.failed kind message : CaseStatus α) := by
  cases ending with
  | succeeds => exact absurd rfl h
  | fails error =>
    cases error with
    | releaseProtocol violation => exact ⟨_, _, _, rfl, .releaseProtocol violation, rfl⟩
    | execution message => exact ⟨_, _, _, rfl, .execution message, rfl⟩
    | panicked message => exact ⟨_, _, _, rfl, .panicked message, rfl⟩
  | panics payload =>
    cases payload with
    | fixed text => exact ⟨_, _, _, rfl, .fixed text, rfl⟩
    | composed text => exact ⟨_, _, _, rfl, .composed text, rfl⟩
    | other => exact ⟨_, _, _, rfl, .other, rfl⟩

end CallEnding

/-- Sampling that makes a case complete came to a measurement. -/
theorem CaseStatus.eq_ok_of_ofSampling {α : Type} {answer : Except CaseError (Measurement α)}
    {measurement : Measurement α}
    (h : CaseStatus.ofSampling answer = .completed measurement) : answer = .ok measurement := by
  match answer, h with
  | .ok _, h => rw [CaseStatus.completed.inj h]
  | .error error, h => cases error <;> cases h

/-! ## Scripts up to their first failure -/

namespace Script

/-- The script of a body whose invocations have the given costs and endings. -/
def ofEndings (costs : Nat → Nat) (signals : Nat → Bool) (endings : Nat → CallEnding) : Script :=
  fun calls ↦ ⟨costs calls, (endings calls).failure, signals calls⟩

variable {script other : Script} {first : Nat} {error : CaseError} {world : World}

theorem invoke_of_succeeds (h : (script world.calls).failure = none) :
    script.subject.invoke world =
      (.ok (), ⟨world.calls + 1, world.clock + (script world.calls).cost⟩) := by
  simp only [subject, invoke, h]

theorem invoke_of_fails (h : (script world.calls).failure = some error) :
    script.subject.invoke world =
      (.error error, ⟨world.calls + 1, world.clock + (script world.calls).cost⟩) := by
  simp only [subject, invoke, h]

/-- Scripts that agree on their first invocations are subjects that agree at first. -/
theorem agreeBelow (h : ∀ calls < first, other calls = script calls) :
    script.subject.AgreeBelow other.subject World.calls first where
  now_eq := rfl
  calls_lt world := Nat.lt_succ_self world.calls
  invoke_eq {world} hlt := by simp only [subject, invoke, h world.calls hlt]

/-- The first failure of a script. -/
structure FailsFirst (script : Script) (first : Nat) (error : CaseError) : Prop where
  succeeds_before {calls : Nat} : calls < first → (script calls).failure = none
  fails : (script first).failure = some error

namespace FailsFirst

/-- Invocations in a row succeed as long as they do not reach the first failure. -/
theorem invokeTimes_before (h : script.FailsFirst first error) (world : World) {count : Nat}
    (hcount : world.calls + count ≤ first) :
    ∃ clock, script.subject.invokeTimes count world =
      (.ok (), ⟨world.calls + count, clock⟩) := by
  induction count generalizing world with
  | zero => exact ⟨world.clock, rfl⟩
  | succ count ih =>
    have hsucceeds := h.succeeds_before (show world.calls < first by omega)
    let next : World := ⟨world.calls + 1, world.clock + (script world.calls).cost⟩
    have hnext : next.calls + count = world.calls + (count + 1) := by
      dsimp only [next]
      omega
    obtain ⟨clock, hrest⟩ := ih next (hnext ▸ hcount)
    unfold Subject.invokeTimes
    rw [invoke_of_succeeds hsucceeds, ← hnext]
    exact ⟨clock, hrest⟩

/-- Invocations in a row that reach the first failure end with it. -/
theorem invokeTimes_past (h : script.FailsFirst first error) (world : World)
    (hworld : world.calls ≤ first) {count : Nat} (hcount : first < world.calls + count) :
    ∃ clock, script.subject.invokeTimes count world = (.error error, ⟨first + 1, clock⟩) := by
  obtain ⟨before, rfl⟩ := Nat.exists_eq_add_of_le hworld
  obtain ⟨after, rfl⟩ : ∃ after, count = before + (after + 1) :=
    ⟨count - before - 1, by omega⟩
  obtain ⟨clock, hbefore⟩ := h.invokeTimes_before world (Nat.le_refl (world.calls + before))
  rw [Subject.invokeTimes_add hbefore]
  unfold Subject.invokeTimes
  rw [invoke_of_fails h.fails]
  exact ⟨_, rfl⟩

variable {α : Type} [Scalar α]

/-- Sampling is complete before the first failure, or ends with it. -/
theorem measure_cases (h : script.FailsFirst first error) (settings : SamplingSettings α)
    {limit : Nat} (hlimit : first ≤ limit) (clock : Nat) :
    (∃ measurement calls now, calls ≤ first ∧
      Sampler.measure settings script.subject limit ⟨0, clock⟩ =
        (some (.ok measurement), ⟨calls, now⟩)) ∨
    ∃ now, Sampler.measure settings script.subject limit ⟨0, clock⟩ =
      (some (.error error), ⟨first + 1, now⟩) := by
  rcases hmeasure : Sampler.measure settings script.subject limit ⟨0, clock⟩ with ⟨answer, after⟩
  obtain ⟨count, hrow, hcount⟩ := Sampler.exists_row_of_measure hmeasure
  have hzero : (0 : Nat) + count = count := Nat.zero_add count
  rcases Nat.lt_or_ge first count with hpast | hbefore
  · obtain ⟨now, hfails⟩ := h.invokeTimes_past ⟨0, clock⟩ (Nat.zero_le first) (hzero.symm ▸ hpast)
    obtain ⟨hanswer, rfl⟩ := Prod.mk.inj (hrow.symm.trans hfails)
    refine .inr ⟨now, ?_⟩
    match answer, hanswer with
    | some (.error _), hanswer => rw [Except.error.inj hanswer]
  · obtain ⟨now, hsucceeds⟩ := h.invokeTimes_before ⟨0, clock⟩ (hzero.symm ▸ hbefore)
    obtain ⟨hanswer, rfl⟩ := Prod.mk.inj (hrow.symm.trans hsucceeds)
    match answer, hanswer with
    | none, _ => exact absurd (hcount rfl) (by omega)
    | some (.ok measurement), _ =>
      exact .inl ⟨measurement, _, now, hzero.symm ▸ hbefore, rfl⟩

end FailsFirst

/-! ## Scripted cases -/

/-- A scripted case after some invocations. -/
def toCaseAfter (name : String) (script : Script) (calls : Nat) : Case :=
  { script.toCase name with state := calls }

theorem toCaseAfter_inj {name : String} {calls calls' : Nat}
    (h : script.toCaseAfter name calls = script.toCaseAfter name calls') : calls = calls' := by
  simpa [toCaseAfter, toCase] using h

/-- A bench with a scripted case does what its script says. -/
def benchSimulation (name : String) (script : Script) :
    Bench.subject.Simulation script.subject where
  ahead := 0
  worlds bench world :=
    bench.case = script.toCaseAfter name world.calls ∧ bench.clock = world.clock
  now_eq h := h.2
  answer_eq h := by
    simp only [Bench.subject, Bench.invoke, h.1]
    rfl
  worlds_invoke h := by
    obtain ⟨hcase, hclock⟩ := h
    simp only [Bench.subject, Bench.invoke, hcase, hclock]
    exact ⟨rfl, rfl⟩

variable {α : Type} [Scalar α] {settings : SamplingSettings α} {name : String} {clock calls : Nat}

/-- What becomes of a scripted case that is measured, and how often its body is invoked for that. -/
def ComesTo (script : Script) (settings : SamplingSettings α) (name : String) (clock : Nat)
    (status : CaseStatus α) (calls : Nat) : Prop :=
  ∃ limit now raised,
    Bench.measure settings limit ⟨script.toCase name, clock, false⟩ =
      (some ⟨name, status⟩, ⟨script.toCaseAfter name calls, now, raised⟩)

/-- A scripted case is measured as its script is. -/
theorem exists_measure_toCase_eq (script : Script) (settings : SamplingSettings α) (limit : Nat)
    (name : String) (clock : Nat) :
    ∃ raised, Bench.measure settings limit ⟨script.toCase name, clock, false⟩ =
      let outcome := Sampler.measure settings script.subject limit ⟨0, clock⟩
      (outcome.1.map fun answer ↦ ⟨name, .ofSampling answer⟩,
        ⟨script.toCaseAfter name outcome.2.calls, outcome.2.clock, raised⟩) := by
  let bench : Bench := ⟨script.toCase name, clock, false⟩
  have hworlds : (script.benchSimulation name).worlds bench ⟨0, clock⟩ := ⟨rfl, rfl⟩
  have hagree := (script.benchSimulation name).measure hworlds settings limit
  have hskip : bench.case.skipReason = none := rfl
  rcases hleft : Sampler.measure settings Bench.subject limit bench with ⟨answer, case, now, raised⟩
  rw [hleft] at hagree
  obtain ⟨hanswer, hcase, hnow⟩ := hagree
  refine ⟨raised, ?_⟩
  unfold Bench.measure
  rw [hskip]
  dsimp only at hanswer hcase hnow ⊢
  rw [hleft, hanswer, hcase, hnow]
  rfl

theorem comesTo_of_measure {limit now : Nat} {answer : Except CaseError (Measurement α)}
    (h : Sampler.measure settings script.subject limit ⟨0, clock⟩ = (some answer, ⟨calls, now⟩)) :
    script.ComesTo settings name clock (.ofSampling answer) calls := by
  obtain ⟨raised, hmeasure⟩ := script.exists_measure_toCase_eq settings limit name clock
  rw [h] at hmeasure
  exact ⟨limit, now, raised, hmeasure⟩

theorem ComesTo.exists_measure {measurement : Measurement α}
    (h : script.ComesTo settings name clock (.completed measurement) calls) :
    ∃ limit now, Sampler.measure settings script.subject limit ⟨0, clock⟩ =
      (some (.ok measurement), ⟨calls, now⟩) := by
  obtain ⟨limit, now, raised, hcomes⟩ := h
  obtain ⟨raised', hmeasure⟩ := script.exists_measure_toCase_eq settings limit name clock
  rcases houtcome : Sampler.measure settings script.subject limit ⟨0, clock⟩ with ⟨answer, after⟩
  rw [hcomes, houtcome] at hmeasure
  obtain ⟨hanswer, hbench⟩ := Prod.mk.inj hmeasure
  obtain ⟨hcase, -, -⟩ := Bench.mk.inj hbench
  obtain ⟨found, rfl, hfound⟩ := Option.map_eq_some_iff.mp hanswer.symm
  have hfound : found = .ok measurement :=
    CaseStatus.eq_ok_of_ofSampling (CaseOutcome.mk.inj hfound).2
  have hcalls : calls = after.calls := toCaseAfter_inj hcase
  exact ⟨limit, after.clock, by rw [houtcome, hfound, hcalls]⟩

/-- A scripted case has what it comes to as its outcome, whatever the clock shows. -/
theorem ComesTo.hasOutcome {status : CaseStatus α}
    (h : script.ComesTo settings name clock status calls) :
    (script.toCase name).HasOutcome settings ⟨name, status⟩ := by
  obtain ⟨limit, now, raised, hmeasure⟩ := h
  exact Bench.hasOutcome_of_measure (congrArg Prod.fst hmeasure)

/-- A scripted case comes to one status at most. -/
theorem ComesTo.unique {status status' : CaseStatus α} {calls' : Nat}
    (h : script.ComesTo settings name clock status calls)
    (h' : script.ComesTo settings name clock status' calls') :
    status = status' ∧ calls = calls' := by
  obtain ⟨limit, now, raised, hmeasure⟩ := h
  obtain ⟨limit', now', raised', hmeasure'⟩ := h'
  have hmax := Bench.measure_of_le (Nat.le_max_left limit limit') (congrArg Prod.fst hmeasure)
  have hmax' := Bench.measure_of_le (Nat.le_max_right limit limit') (congrArg Prod.fst hmeasure')
  have hsame := (hmeasure.symm.trans hmax.symm).trans (hmax'.trans hmeasure')
  obtain ⟨hstatus, hbench⟩ := Prod.mk.inj hsame
  exact ⟨(CaseOutcome.mk.inj (Option.some.inj hstatus)).2,
    toCaseAfter_inj (Bench.mk.inj hbench).1⟩

theorem failsFirst_ofEndings {costs : Nat → Nat} {signals : Nat → Bool}
    {endings : Nat → CallEnding} (hbefore : ∀ calls < first, endings calls = .succeeds)
    (hfirst : (endings first).failure = some error) :
    (ofEndings costs signals endings).FailsFirst first error where
  succeeds_before {calls} hlt := by rw [ofEndings, hbefore calls hlt, CallEnding.failure]
  fails := hfirst

/-- A case that completes before the first failure of another script completes with that as well. -/
theorem ComesTo.of_agree (h : ∀ calls < first, other calls = script calls)
    {measurement : Measurement α} (hcalls : calls ≤ first)
    (hcomes : script.ComesTo settings name clock (.completed measurement) calls) :
    other.ComesTo settings name clock (.completed measurement) calls := by
  obtain ⟨limit, now, hmeasure⟩ := hcomes.exists_measure
  have hsame : Sampler.measure settings other.subject limit ⟨0, clock⟩ =
      Sampler.measure settings script.subject limit ⟨0, clock⟩ := by
    apply (agreeBelow h).measure
    rwa [hmeasure]
  exact comesTo_of_measure (hsame.trans hmeasure)

end Script

/-! ## Suites with a case that fails -/

variable {α : Type} [Scalar α] {settings : SamplingSettings α}

/-- Whatever surrounds it, a suite comes to these outcomes one after the other. Only a cancellation
leaves any of them out, and a suite that nothing cancels leaves out none. -/
def Registry.ComesTo (registry : Registry) (settings : SamplingSettings α)
    (outcomes : List (CaseOutcome α)) : Prop :=
  ∃ limit, ∀ (ω : Type) (surroundings : Surroundings α ω) (state : SuiteState ω),
    ∃ run, registry.run settings limit surroundings state = some run ∧
      run.result.outcomes <+: outcomes ∧
      (run.result.cancelled = false → run.result.outcomes = outcomes) ∧
      (surroundings.Quiet → state.cancelRequested = false → run.result.cancelled = false)

/-- Cases that come to an end alone have outcomes, one for each. -/
theorem exists_forall₂_hasOutcome {cases : List Case}
    (hends : ∀ case ∈ cases, ∃ outcome, case.HasOutcome settings outcome) :
    ∃ outcomes, List.Forall₂ (Case.HasOutcome settings) cases outcomes := by
  induction cases with
  | nil => exact ⟨[], .nil⟩
  | cons case rest ih =>
    obtain ⟨outcome, houtcome⟩ := hends case List.mem_cons_self
    obtain ⟨outcomes, hrest⟩ := ih fun other hmem ↦ hends other (List.mem_cons_of_mem _ hmem)
    exact ⟨outcome :: outcomes, .cons houtcome hrest⟩

/-- A suite comes to the outcomes that its cases have alone. -/
theorem Registry.comesTo_of_forall₂ {registry : Registry} {outcomes : List (CaseOutcome α)}
    (h : List.Forall₂ (Case.HasOutcome settings) registry.cases outcomes) :
    registry.ComesTo settings outcomes := by
  have hends : ∀ case ∈ registry.cases, ∃ outcome, case.HasOutcome settings outcome := by
    intro case hmem
    obtain ⟨outcome, -, houtcome⟩ := exists_of_forall₂_of_mem h hmem
    exact ⟨outcome, houtcome⟩
  obtain ⟨limit, hruns⟩ := registry.exists_run hends
  refine ⟨limit, fun ω surroundings state ↦ ?_⟩
  obtain ⟨run, hrun⟩ := hruns ω surroundings state
  have hruns : registry.RunsTo settings run.result :=
    ⟨ω, limit, surroundings, state, run, hrun, rfl⟩
  obtain ⟨hpart, hall⟩ := hruns.outcomes_prefix h
  exact ⟨run, hrun, hpart, hall, fun hquiet hstate ↦ hquiet.run hstate hrun⟩

/-- A case that is measured ends as it would if its body never failed, as long as that takes no
invocation from the first failure on. Otherwise the case fails with that failure, which was the last
invocation, and a suite comes to this outcome between those of its other cases. -/
theorem first_failure_decides (costs : Nat → Nat) (signals : Nat → Bool)
    (endings : Nat → CallEnding) (first : Nat)
    (hbefore : ∀ calls < first, endings calls = .succeeds) (hfirst : endings first ≠ .succeeds)
    (settings : SamplingSettings α) (name : String) (clock : Nat) :
    let script := Script.ofEndings costs signals endings
    let spared := Script.ofEndings costs signals fun _ ↦ .succeeds
    (∀ measurement calls, calls ≤ first →
      spared.ComesTo settings name clock (.completed measurement) calls →
        script.ComesTo settings name clock (.completed measurement) calls) ∧
    ((∀ measurement calls, spared.ComesTo settings name clock (.completed measurement) calls →
        first < calls) →
      ∃ kind message, (endings first).Reports kind message ∧
        script.ComesTo settings name clock (.failed kind message) (first + 1) ∧
        ∀ (registry : Registry) (before rest : List Case),
          registry.cases = before ++ script.toCase name :: rest →
          (∀ case ∈ before ++ rest, ∃ outcome, case.HasOutcome settings outcome) →
          ∃ earlier later, List.Forall₂ (Case.HasOutcome settings) before earlier ∧
            List.Forall₂ (Case.HasOutcome settings) rest later ∧
            registry.ComesTo settings
              (earlier ++ ⟨name, .failed kind message⟩ :: later)) := by
  intro script spared
  have hagree : ∀ calls < first, script calls = spared calls := by
    intro calls hlt
    simp only [script, spared, Script.ofEndings, hbefore calls hlt]
  refine ⟨fun measurement calls hcalls hspared ↦ hspared.of_agree hagree hcalls, fun hlate ↦ ?_⟩
  obtain ⟨error, kind, message, hfailure, hreports, hstatus⟩ :=
    CallEnding.exists_reports (α := α) hfirst
  have hfails : script.FailsFirst first error := Script.failsFirst_ofEndings hbefore hfailure
  have hcomes : script.ComesTo settings name clock (.failed kind message) (first + 1) := by
    rcases hfails.measure_cases settings (Nat.le_refl first) clock with
      ⟨measurement, calls, now, hcalls, hmeasure⟩ | ⟨now, hmeasure⟩
    · have hcompleted : script.ComesTo settings name clock (.completed measurement) calls :=
        Script.comesTo_of_measure hmeasure
      have hspared := hcompleted.of_agree (fun calls hlt ↦ (hagree calls hlt).symm) hcalls
      exact absurd (hlate measurement calls hspared) (Nat.not_lt_of_le hcalls)
    · rw [← hstatus]
      exact Script.comesTo_of_measure hmeasure
  refine ⟨kind, message, hreports, hcomes, fun registry before rest hcases hends ↦ ?_⟩
  obtain ⟨earlier, hearlier⟩ := exists_forall₂_hasOutcome fun case hmem ↦
    hends case (List.mem_append_left rest hmem)
  obtain ⟨later, hlater⟩ := exists_forall₂_hasOutcome fun case hmem ↦
    hends case (List.mem_append_right before hmem)
  refine ⟨earlier, later, hearlier, hlater, Registry.comesTo_of_forall₂ ?_⟩
  rw [hcases]
  exact List.rel_append hearlier (.cons hcomes.hasOutcome hlater)

/-- A panic without a text in the middle of the first batch, after the warm-up and one invocation.
The case after it is run. -/
theorem first_failure_decides_panic :
    let settings : SamplingSettings Float := ⟨25, 2, 100.0, 60, .standard⟩
    let script := Script.ofEndings (fun _ ↦ 10) (fun _ ↦ false) fun calls ↦
      if calls = 2 then .panics .other else .succeeds
    let broken := script.toCase "broken"
    let steady := Script.toCase "steady" (.steady 10)
    let registry : Registry := ⟨[broken, steady], .ofList ["broken", "steady"]⟩
    script.ComesTo settings "broken" 0 (.failed .panicked "Unknown panic") 3 ∧
      ∃ outcome, steady.HasOutcome settings outcome ∧
        registry.ComesTo settings
          [⟨"broken", .failed .panicked "Unknown panic"⟩, outcome] := by
  intro settings script broken steady registry
  let endings (calls : Nat) : CallEnding := if calls = 2 then .panics .other else .succeeds
  let spared := Script.ofEndings (fun _ ↦ 10) (fun _ ↦ false) fun _ ↦ .succeeds
  have hspared : ∃ measurement, spared.ComesTo settings "broken" 0 (.completed measurement) 7 := by
    have hrun : ((Sampler.measure settings spared.subject 2 ⟨0, 0⟩).1.bind Except.toOption).isSome ∧
        (Sampler.measure settings spared.subject 2 ⟨0, 0⟩).2.calls = 7 := by decide +kernel
    obtain ⟨hsome, hcalls⟩ := hrun
    rcases hmeasure : Sampler.measure settings spared.subject 2 ⟨0, 0⟩ with ⟨answer, after⟩
    rw [hmeasure] at hsome hcalls
    match answer, hsome with
    | some (.ok measurement), _ =>
      exact ⟨measurement, hcalls ▸ Script.comesTo_of_measure hmeasure⟩
  have hbefore : ∀ calls < 2, endings calls = .succeeds := by
    intro calls hlt
    exact if_neg (Nat.ne_of_lt hlt)
  have hfirst : endings 2 ≠ .succeeds := nofun
  obtain ⟨measurement, hcompletes⟩ := hspared
  have hlate : ∀ other calls, spared.ComesTo settings "broken" 0 (.completed other) calls →
      2 < calls := by
    intro other calls hother
    rw [← (hcompletes.unique hother).2]
    decide
  obtain ⟨kind, message, hreports, hcomes, hsuite⟩ :=
    (first_failure_decides (fun _ ↦ 10) (fun _ ↦ false) endings 2 hbefore hfirst settings
      "broken" 0).2 hlate
  obtain ⟨rfl, rfl⟩ : kind = .panicked ∧ message = "Unknown panic" := by
    have hending : endings 2 = .panics .other := rfl
    rw [hending] at hreports
    cases hreports
    exact ⟨rfl, rfl⟩
  have hsteady : (Bench.measure settings 2 ⟨steady, 0, false⟩).1.isSome := by decide +kernel
  obtain ⟨outcome, hsteady⟩ := Option.isSome_iff_exists.mp hsteady
  have houtcome : steady.HasOutcome settings outcome := ⟨2, hsteady⟩
  have hends : ∀ case ∈ [] ++ [steady], ∃ outcome, case.HasOutcome settings outcome := by
    intro case hmem
    rw [List.mem_singleton.mp hmem]
    exact ⟨outcome, houtcome⟩
  obtain ⟨earlier, later, hearlier, hlater, hregistry⟩ := hsuite registry [] [steady] rfl hends
  obtain rfl := List.forall₂_nil_left_iff.mp hearlier
  obtain rfl := List.right_unique_forall₂' (Case.HasOutcome.rightUnique settings) hlater
    (.cons houtcome .nil)
  exact ⟨hcomes, outcome, houtcome, hregistry⟩

end PushBench
