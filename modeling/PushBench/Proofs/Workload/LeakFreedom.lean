import PushBench.Adapter.Faulty
import PushBench.Case
import PushBench.Proofs.Workload.Counted
import PushBench.Proofs.Workload.Stored

/-!
# Invocations leave no handle behind

Any number of invocations, of whatever lengths and whether they succeed or fail, leave live exactly
the handles that were live before. Handles that others hold are not disturbed. Where releases are
ignored, handles pile up, and every invocation of a case reports how many there are.
-/

namespace PushBench

variable {σ η : Type}

/-! ## Sessions of invocations -/

/-- Whether a step is an invocation of a workload. -/
def SessionStep.isInvocation : SessionStep → Bool
  | .run _ => true
  | .build _ => true
  | _ => false

/-- The error of an answer, if it is one. -/
def SessionAnswer.errors : SessionAnswer η → List AdapterError
  | .failed error => [error]
  | _ => []

theorem SessionAnswer.mem_errors {error : AdapterError} {answers : List (SessionAnswer η)}
    (h : .failed error ∈ answers) : error ∈ answers.flatMap errors :=
  List.mem_flatMap.mpr ⟨_, h, List.mem_singleton_self error⟩

theorem Session.errors_conclude {α : Type} (session : Session σ η) (answer : α → SessionAnswer η)
    (hanswer : ∀ value, (answer value).errors = []) (outcome : Except AdapterError α × σ) :
    (session.conclude answer outcome).1.errors = errorsOf outcome.1 ∧
      (session.conclude answer outcome).2.state = outcome.2 := by
  rcases outcome with ⟨error | value, state⟩
  · exact ⟨rfl, rfl⟩
  · exact ⟨hanswer value, rfl⟩

/-- What every invocation makes of a state and its errors, a session of invocations makes of them,
if it passes from one invocation to the next. -/
theorem Session.run_invocations (adapter : Adapter σ η)
    (relates : σ → List AdapterError → σ → Prop) (hrefl : ∀ state, relates state [] state)
    (htrans : ∀ {start between after errors later}, relates start errors between →
      relates between later after → relates start (errors ++ later) after)
    (hrun : ∀ (workload : Workload) (state : σ),
      relates state (errorsOf (workload.run adapter state).1) (workload.run adapter state).2)
    (hmaterialize : ∀ (workload : Workload) (state : σ),
      relates state (errorsOf (workload.materialize adapter state).1)
        (workload.materialize adapter state).2)
    {steps : List SessionStep} (hsteps : ∀ step ∈ steps, step.isInvocation = true)
    (session : Session σ η) :
    relates session.state ((Session.run adapter steps session).1.flatMap SessionAnswer.errors)
      (Session.run adapter steps session).2.state := by
  induction steps generalizing session with
  | nil => exact hrefl _
  | cons step steps ih =>
    have hfirst : relates session.state (session.step adapter step).1.errors
        (session.step adapter step).2.state := by
      cases step with
      | run workload =>
        obtain ⟨herrors, hstate⟩ := session.errors_conclude (fun _ ↦ .done) (fun _ ↦ rfl)
          (workload.run adapter session.state)
        rw [Session.step, herrors, hstate]
        exact hrun workload session.state
      | build workload =>
        obtain ⟨herrors, hstate⟩ := session.errors_conclude .contents (fun _ ↦ rfl)
          (workload.materialize adapter session.state)
        rw [Session.step, herrors, hstate]
        exact hmaterialize workload session.state
      | _ => simp [SessionStep.isInvocation] at hsteps
    have hrest := ih (fun other hother ↦ hsteps other (List.mem_cons_of_mem step hother))
      (session.step adapter step).2
    exact htrans hfirst hrest

/-! ## Counted handles -/

namespace HandleCounts

variable {name : String} {failing : Option Element} {start books : HandleCounts}

theorem Holds.trans {between : HandleCounts} (h : start.Holds between [])
    (hnext : between.Holds books []) : start.Holds books [] where
  issued_le := Nat.le_trans h.issued_le hnext.issued_le
  nodup := .nil
  mem_own hmem := by simp at hmem
  contains_live number := by rw [hnext.contains_live, h.contains_live]; simp
  size_live := hnext.size_live.trans h.size_live
  counts_eq number := by
    have hlow := h.issued_le
    have hhigh := hnext.issued_le
    rw [hnext.counts_eq, h.counts_eq]
    simp only [List.not_mem_nil, not_false_eq_true, and_true]
    by_cases hnew : between.issued ≤ number ∧ number < books.issued
    · rw [if_pos hnew, if_pos ⟨Nat.le_trans hlow hnew.1, hnew.2⟩]
    · by_cases hold : start.issued ≤ number ∧ number < between.issued
      · rw [if_neg hnew, if_pos hold, if_pos ⟨hold.1, Nat.lt_of_lt_of_le hold.2 hhigh⟩]
      · rw [if_neg hnew, if_neg hold, if_neg (by omega)]

/-- What invocations make of books, and what they fail with. -/
structure Invoked (start : HandleCounts) (errors : List AdapterError) (books : HandleCounts) :
    Prop where
  bounded : books.Bounded
  holds : start.Holds books []
  error_eq {error : AdapterError} : error ∈ errors → ∃ message, error = .backend message

/-- An invocation leaves the books as they should be, whatever became of it. -/
theorem invoked_of_idle {α : Type} {outcome : Except AdapterError α × HandleCounts}
    (hbounded : start.Bounded)
    (hreaches : (Adapter.counting name { failPushAt := failing }).Reaches start outcome.2)
    (hidle : (invariant name failing hbounded).idle outcome.2)
    (herror : ∀ {error after}, outcome = (.error error, after) →
      ∃ message, error = .backend message) :
    Invoked start (errorsOf outcome.1) outcome.2 where
  bounded := hbounded.of_reaches hreaches
  holds := hidle
  error_eq {error} hmem := by
    rcases outcome with ⟨error' | value, after⟩
    · obtain rfl := List.mem_singleton.mp hmem
      exact herror rfl
    · simp [errorsOf] at hmem

/-- A session of invocations leaves the books as they should be. -/
theorem invoked_session (name : String) (failing : Option Element) (hbounded : start.Bounded)
    {steps : List SessionStep}
    (hsteps : ∀ step ∈ steps, step.isInvocation = true) (handles : Array (Option CountedHandle)) :
    let adapter := Adapter.counting name { failPushAt := failing }
    let outcome := Session.run adapter steps ⟨start, handles⟩
    Invoked start (outcome.1.flatMap SessionAnswer.errors) outcome.2.state := by
  intro adapter outcome
  refine Session.run_invocations adapter
    (fun start errors books ↦ start.Bounded → Invoked start errors books)
    (fun books hbounded ↦ ⟨hbounded, .nil books, by simp⟩) ?_ ?_ ?_ hsteps ⟨start, handles⟩
    hbounded
  · intro start between books errors later hfirst hlater hbounded
    have hbetween := hfirst hbounded
    have hafter := hlater hbetween.bounded
    refine ⟨hafter.bounded, hbetween.holds.trans hafter.holds, fun hmem ↦ ?_⟩
    exact (List.mem_append.mp hmem).elim hbetween.error_eq hafter.error_eq
  · intro workload books hbounded
    have hreaches := (Adapter.Reaches.invariant adapter books).run (.refl adapter books) workload
    have hholds := (invariant name failing hbounded).run (.nil books) workload
    exact invoked_of_idle hbounded hreaches hholds
      fun hrun ↦ (notes name failing hbounded).run (.nil books) hrun
  · intro workload books hbounded
    have hreaches :=
      (Adapter.Reaches.invariant adapter books).materialize (.refl adapter books) workload
    exact invoked_of_idle hbounded hreaches
      ((invariant name failing hbounded).materialize (.nil books) workload)
      fun hmaterialize ↦ (notes name failing hbounded).materialize (.nil books) hmaterialize

end HandleCounts

/-! ## Released stores -/

namespace ReleasedStore

variable {κ : Type → Type} [SlotStore κ] {inner : Adapter σ η}
  {start between store : ReleasedStore σ η κ}

theorem Holds.trans (h : Holds inner start between []) (hnext : Holds inner between store []) :
    Holds inner start store [] where
  reaches := h.reaches.trans hnext.reaches
  nodup := .nil
  lookup_eq hmem := (hnext.lookup_eq hmem).trans (h.lookup_eq hmem)
  lookup_own hmem := by simp at hmem
  live_eq := hnext.live_eq.trans h.live_eq

/-- What invocations make of a store, and what they fail with. -/
structure Invoked (inner : Adapter σ η) (start : ReleasedStore σ η κ) (errors : List AdapterError)
    (store : ReleasedStore σ η κ) : Prop where
  holds : Holds inner start store []
  answered : ∃ answered, inner.Leads start.inner answered store.inner ∧ errors ⊆ answered

/-- An invocation leaves the store as it should be, whatever became of it. -/
theorem invoked_of_idle {α : Type} {outcome : Except AdapterError α × ReleasedStore σ η κ}
    (hidle : Holds inner start outcome.2 [])
    (herror : ∀ {error after}, outcome = (.error error, after) → Answered inner start error after) :
    Invoked inner start (errorsOf outcome.1) outcome.2 where
  holds := hidle
  answered := by
    rcases outcome with ⟨error | value, after⟩
    · obtain ⟨answered, hleads, hmem⟩ := herror rfl
      exact ⟨answered, hleads, by simpa [errorsOf] using hmem⟩
    · obtain ⟨answered, hleads⟩ := hidle.reaches
      exact ⟨answered, hleads, List.nil_subset _⟩

/-- A session of invocations leaves the store as it should be. -/
theorem invoked_session [LawfulSlotStore κ] (inner : Adapter σ η) (start : ReleasedStore σ η κ)
    {steps : List SessionStep} (hsteps : ∀ step ∈ steps, step.isInvocation = true)
    (handles : Array (Option ReleasedHandle)) :
    let outcome := Session.run (inner.releasedIn κ) steps ⟨start, handles⟩
    Invoked inner start (outcome.1.flatMap SessionAnswer.errors) outcome.2.state := by
  intro outcome
  refine Session.run_invocations (inner.releasedIn κ) (Invoked inner)
    (fun store ↦ ⟨.nil inner store, [], .start, List.nil_subset _⟩) ?_ ?_ ?_ hsteps
    ⟨start, handles⟩
  · intro start between store errors later hfirst hlater
    obtain ⟨answered, hleads, herrors⟩ := hfirst.answered
    obtain ⟨answered', hleads', hlater'⟩ := hlater.answered
    exact ⟨hfirst.holds.trans hlater.holds, answered ++ answered', hleads.trans hleads',
      List.append_subset.mpr ⟨List.subset_append_of_subset_left _ herrors,
        List.subset_append_of_subset_right _ hlater'⟩⟩
  · intro workload store
    exact invoked_of_idle ((invariant inner store).run (.nil inner store) workload)
      fun hrun ↦ (notes inner store).run (.nil inner store) hrun
  · intro workload store
    exact invoked_of_idle ((invariant inner store).materialize (.nil inner store) workload)
      fun hmaterialize ↦ (notes inner store).materialize (.nil inner store) hmaterialize

end ReleasedStore

/-! ## Cases whose releases are ignored -/

namespace Case

/-- One invocation, which reads the contents if that is asked for, and the case after it. -/
def invokeAs (reads : Bool) (case : Case) : Option (Except CaseError Unit × Case) :=
  if reads then
    case.materialize.map fun (reply, after) ↦ (reply.answer.map fun _ ↦ (), after)
  else some (case.run.1.answer, case.run.2)

/-- The answers to invocations one after the other. -/
def answers : List Bool → Case → Option (List (Except CaseError Unit))
  | [], _ => some []
  | reads :: rest, case =>
    match case.invokeAs reads with
    | some (answer, after) => (answers rest after).map (answer :: ·)
    | none => none

variable (label : String) (adapter : Adapter σ η) (state : σ) (workload : Workload)

theorem invokeAs_named_false :
    (named label adapter state workload).invokeAs false =
      some ((replyOf adapter state (workload.run adapter state)).answer,
        named label adapter (workload.run adapter state).2 workload) := rfl

theorem invokeAs_named_true :
    (named label adapter state workload).invokeAs true =
      some ((replyOf adapter state (workload.materialize adapter state)).answer.map fun _ ↦ (),
        named label adapter (workload.materialize adapter state).2 workload) := rfl

end Case

namespace HandleCounts

variable {books : HandleCounts}

/-- An invocation whose releases were ignored fails with the number of handles that are live. -/
theorem Piles.invokeAs (hbounded : books.Bounded) (hlive : books.AllLive) (label name : String)
    (workload : Workload) (reads : Bool) :
    let adapter := Adapter.counting name { ignoreReleases := true }
    ∃ after, (Case.named label adapter books workload).invokeAs reads =
        some (.error (.releaseProtocol (.outstanding (books.issued + (workload.len + 1)))),
          Case.named label adapter after workload) ∧
      books.Piles after (workload.len + 1) := by
  intro adapter
  have hchecked {after : HandleCounts} (hafter : books.Piles after (workload.len + 1)) :
      adapter.checkReleased after =
        .error (.releaseProtocol (.outstanding (books.issued + (workload.len + 1)))) := by
    have houtstanding : adapter.outstanding after = some (books.issued + workload.len + 1) :=
      congrArg some (hafter.allLive.size_live.trans hafter.issued_eq)
    rw [Adapter.checkReleased, houtstanding, ← Nat.add_assoc]
  cases reads with
  | false =>
    obtain ⟨after, hrun, hafter⟩ := Piles.run name hbounded hlive workload
    refine ⟨after, ?_, hafter⟩
    rw [Case.invokeAs_named_false, hrun]
    simp only [Case.replyOf, hchecked hafter, Except.map]
  | true =>
    obtain ⟨elements, after, hmaterialize, hafter⟩ :=
      Piles.materialize name hbounded hlive workload
    refine ⟨after, ?_, hafter⟩
    rw [Case.invokeAs_named_true, hmaterialize]
    simp only [Case.replyOf, hchecked hafter, Except.map]

/-- Every invocation whose releases were ignored adds its handles to those that are live. -/
theorem Piles.answers (hbounded : books.Bounded) (hlive : books.AllLive) (label name : String)
    (workload : Workload) (modes : List Bool) :
    Case.answers modes
        (Case.named label (Adapter.counting name { ignoreReleases := true }) books workload) =
      some ((List.range modes.length).map fun earlier ↦ .error (.releaseProtocol
        (.outstanding (books.issued + (earlier + 1) * (workload.len + 1))))) := by
  induction modes generalizing books with
  | nil => rfl
  | cons reads modes ih =>
    obtain ⟨after, hfirst, hafter⟩ := Piles.invokeAs hbounded hlive label name workload reads
    rw [Case.answers, hfirst]
    dsimp only
    rw [ih hafter.bounded hafter.allLive, hafter.issued_eq, Option.map_some, List.length_cons,
      List.range_succ_eq_map, List.map_cons, List.map_map, Nat.zero_add, Nat.one_mul]
    congr 2
    refine List.map_congr_left fun earlier _ ↦ ?_
    simp only [Function.comp_apply, Nat.succ_eq_add_one, Nat.add_one_mul, Nat.add_assoc,
      Nat.add_comm, Nat.add_left_comm]

end HandleCounts

/-! ## Leak freedom -/

/-- The operations of a faulty adapter leave its versions as they are, whatever faults it has. -/
theorem Adapter.faulty_persists (name : String) (kind : AdapterKind) (maxLen : Option Nat)
    (faults : Faults) : (Adapter.faulty name kind maxLen faults).Persists fun _ _ ↦ True := by
  have hretains (state after : FaultyUse) :
      (Adapter.faulty name kind maxLen faults).Retains (fun _ _ ↦ True) state after := by
    refine fun version _ ↦ ⟨trivial, ?_⟩
    simp only [Adapter.faulty]
    split <;> rfl
  exact
    { issued_empty := fun _ ↦ trivial
      issued_push := fun _ _ _ ↦ trivial
      empty := fun _ ↦ hretains _ _
      push := fun _ _ ↦ hretains _ _
      release := fun _ ↦ hretains _ _
      read := fun _ ↦ hretains _ _ }

/-- Any number of invocations of whatever workloads, whether they succeed or fail, leave live
exactly the handles that were live before, wherever they start.

Counted handles read as they did, no invocation misuses a handle, and every handle that was issued
to an invocation has been given back once. The handles of a released store refer to the versions
they referred to; over an adapter whose operations leave versions as they are, a handle reads what
it read at any time before at which it was live; and all errors are answers of the inner adapter.

Where releases are ignored, the invocations of a case fail one after the other, each with the number
of all handles that have been issued until then. -/
theorem invocations_leave_live_handles :
    (∀ (name : String) (failing : Option Element) (before : HandleCounts)
      (handles : Array (Option CountedHandle)) (steps : List SessionStep),
      let adapter := Adapter.counting name { failPushAt := failing }
      adapter.Reaches .start before → (∀ step ∈ steps, step.isInvocation = true) →
      let outcome := Session.run adapter steps ⟨before, handles⟩
      let after := outcome.2.state
      (∀ number, after.live.contains number = before.live.contains number) ∧
        adapter.outstanding after = adapter.outstanding before ∧
        (∀ handle, before.live.contains handle.id = true →
          (adapter.read handle after).1 = .ok handle.version.reverse) ∧
        (∀ violation, .failed (.protocol violation) ∉ outcome.1) ∧
        ∀ number, before.issued ≤ number → number < after.issued →
          after.counts[number]? = some 1) ∧
    (∀ (σ η : Type) (κ : Type → Type) [SlotStore κ] [LawfulSlotStore κ] (inner : Adapter σ η)
      (start : σ) (earlier before : ReleasedStore σ η κ) (handles : Array (Option ReleasedHandle))
      (steps : List SessionStep),
      let adapter := inner.releasedIn κ
      adapter.Reaches (.ofInner start) earlier → adapter.Reaches earlier before →
      (∀ step ∈ steps, step.isInvocation = true) →
      let outcome := Session.run adapter steps ⟨before, handles⟩
      let after := outcome.2.state
      (∀ handle, after.lookup handle = before.lookup handle) ∧
        adapter.outstanding after = adapter.outstanding before ∧
        (∀ issued, inner.Persists issued → ∀ handle, (earlier.lookup handle).isSome →
          (before.lookup handle).isSome →
            (adapter.read handle after).1 = (adapter.read handle earlier).1) ∧
        ∃ errors, inner.Leads before.inner errors after.inner ∧
          ∀ error, .failed error ∈ outcome.1 → error ∈ errors) ∧
    ∀ (label name : String) (workload : Workload) (modes : List Bool),
      Case.answers modes
          (Case.named label (Adapter.counting name { ignoreReleases := true }) .start workload) =
        some ((List.range modes.length).map fun earlier ↦ .error (.releaseProtocol
          (.outstanding ((earlier + 1) * (workload.len + 1))))) := by
  refine ⟨fun name failing before handles steps ↦ ?_,
    fun σ η κ _ _ inner start earlier before handles steps ↦ ?_,
    fun label name workload modes ↦ ?_⟩
  · intro adapter hreaches hsteps outcome after
    have hbounded := HandleCounts.bounded_start.of_reaches hreaches
    have hinvoked := HandleCounts.invoked_session name failing hbounded hsteps handles
    have hlive (number : Nat) : after.live.contains number = before.live.contains number := by
      rw [hinvoked.holds.contains_live]
      simp
    refine ⟨hlive, congrArg some hinvoked.holds.size_live, fun handle hhandle ↦ ?_,
      fun violation hmem ↦ ?_, fun number hlow hhigh ↦ ?_⟩
    · rw [HandleCounts.read_of_live _ _ ((hlive handle.id).trans hhandle)]
    · obtain ⟨message, hmessage⟩ := hinvoked.error_eq (SessionAnswer.mem_errors hmem)
      cases hmessage
    · rw [hinvoked.holds.counts_eq, if_pos ⟨hlow, hhigh, List.not_mem_nil⟩]
  · intro adapter hearlier hbefore hsteps outcome after
    have hinvoked := ReleasedStore.invoked_session inner before hsteps handles
    have hlookup (handle : ReleasedHandle) : after.lookup handle = before.lookup handle :=
      hinvoked.holds.lookup_eq List.not_mem_nil
    refine ⟨hlookup, congrArg some hinvoked.holds.live_eq,
      fun issued hpersists handle hlive hstill ↦ ?_, ?_⟩
    · have hsound : earlier.Sound issued :=
        (ReleasedStore.Outlasts.of_reaches hpersists (ReleasedStore.sound_ofInner start)
          hearlier).sound
      have hafter := hbefore.trans (.session adapter steps ⟨before, handles⟩)
      exact ReleasedStore.read_eq_of_reaches hpersists hsound hafter hlive
        ((hlookup handle).symm ▸ hstill)
    · obtain ⟨errors, hleads, hsubset⟩ := hinvoked.answered
      exact ⟨errors, hleads, fun error hmem ↦ hsubset (SessionAnswer.mem_errors hmem)⟩
  · rw [HandleCounts.Piles.answers HandleCounts.bounded_start HandleCounts.allLive_start]
    simp [HandleCounts.start]

/-- Others hold two versions while one invocation succeeds and one fails, of counted handles and of
a released store; and a case without releases is invoked twice. -/
theorem invocations_leave_live_handles_after_failure :
    let counting := Adapter.counting "counted" { failPushAt := some 2 }
    let books := (counting.push ⟨0, []⟩ 7 (counting.empty .start).2).2
    let counted := Session.run counting [.run ⟨2⟩, .build ⟨5⟩] ⟨books, #[]⟩
    let inner := Adapter.faulty "vector" .collected none
      { pushError := some (3, .backend "out of memory") }
    let released := inner.released
    let first := released.empty (.ofInner {})
    let second := released.push first.1 7 first.2
    let invoked := Session.run released [.run ⟨1⟩, .build ⟨5⟩] ⟨second.2, #[]⟩
    (counted.1.map SessionAnswer.errors = [[], [.backend "injected failure at 2"]] ∧
        counted.2.state.live.contains 1 = true ∧
        (counting.read ⟨1, [7]⟩ counted.2.state).1 = .ok [7] ∧
        counted.2.state.counts[7]? = some 1) ∧
      (invoked.1.map SessionAnswer.errors = [[], [.backend "out of memory"]] ∧
        released.outstanding invoked.2.state = some 2 ∧
        (released.read first.1 invoked.2.state).1 = .ok []) ∧
      Case.answers [true, false]
          (Case.named "leaky" (Adapter.counting "counted" { ignoreReleases := true }) .start ⟨2⟩) =
        some [.error (.releaseProtocol (.outstanding 3)),
          .error (.releaseProtocol (.outstanding 6))] := by
  intro counting books counted inner released first second invoked
  obtain ⟨hcounting, hreleased, hleaky⟩ := invocations_leave_live_handles
  refine ⟨?_, ?_, hleaky "leaky" "counted" ⟨2⟩ [true, false]⟩
  · have hreaches : counting.Reaches .start books :=
      ((Adapter.Reaches.refl counting .start).empty).push ⟨0, []⟩ 7
    obtain ⟨hlive, -, hread, -, hcounts⟩ :=
      hcounting "counted" (some 2) books #[] [.run ⟨2⟩, .build ⟨5⟩] hreaches (by decide)
    have hadapter : Adapter.counting "counted" { failPushAt := some 2 } = counting := rfl
    have hcounted : Session.run counting [.run ⟨2⟩, .build ⟨5⟩] ⟨books, #[]⟩ = counted := rfl
    rw [hadapter, hcounted] at hlive hread hcounts
    have hheld : books.live.contains 1 = true := by decide +kernel
    have hissued : books.issued ≤ 7 ∧ 7 < counted.2.state.issued := by decide +kernel
    exact ⟨by decide +kernel, (hlive 1).trans hheld, hread ⟨1, [7]⟩ hheld,
      hcounts 7 hissued.1 hissued.2⟩
  · have hfirst : released.Reaches (.ofInner {}) first.2 := (Adapter.Reaches.refl released _).empty
    have hsecond : released.Reaches first.2 second.2 :=
      (Adapter.Reaches.refl released first.2).push first.1 7
    obtain ⟨-, houtstanding, hread, -⟩ :=
      hreleased FaultyUse (List Element) Slots inner {} first.2 second.2 #[]
        [.run ⟨1⟩, .build ⟨5⟩] hfirst hsecond (by decide)
    have hadapter : inner.releasedIn Slots = released := rfl
    have hinvoked : Session.run released [.run ⟨1⟩, .build ⟨5⟩] ⟨second.2, #[]⟩ = invoked := rfl
    rw [hadapter, hinvoked] at houtstanding hread
    have hlive : released.outstanding second.2 = some 2 := by decide +kernel
    have hempty : (released.read first.1 first.2).1 = .ok [] := rfl
    have hheld : (first.2.lookup first.1).isSome ∧ (second.2.lookup first.1).isSome := by
      decide +kernel
    refine ⟨by decide +kernel, houtstanding.trans hlive, ?_⟩
    exact (hread _ (Adapter.faulty_persists ..) first.1 hheld.1 hheld.2).trans hempty

/-- An invocation fails with a violation if the inner adapter answers with one. -/
theorem not_invocations_free_of_violations :
    ¬ ∀ (inner : Adapter FaultyUse (List Element)) (issued : FaultyUse → List Element → Prop)
      (workload : Workload) (violation : ProtocolViolation), inner.kind = .collected →
      inner.Persists issued →
        (workload.run inner.released (.ofInner {})).1 ≠ .error (.protocol violation) := by
  intro h
  let inner := Adapter.faulty "vector" .collected none
    { pushError := some (0, .protocol (.useAfterRelease 5)) }
  exact h inner (fun _ _ ↦ True) ⟨1⟩ (.useAfterRelease 5) rfl (Adapter.faulty_persists ..) rfl

end PushBench
