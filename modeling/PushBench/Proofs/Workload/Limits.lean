import PushBench.Proofs.Workload.FirstError
import PushBench.Proofs.Workload.LeakFreedom
import PushBench.Proofs.Workload.Standard

/-!
# Limits of length

Copied arrays declare a limit and enforce it, and stores over them, at any depth, pass both on. A
workload that fits is served whenever it is invoked. A longer one fails at the first element beyond
the limit, after as many pushes as the limit admits, and no store is left with a version.
-/

namespace PushBench

variable {σ η : Type}

/-! ## Pushes and their outcomes -/

namespace AdapterCall

/-- The element that a call pushed, with the error of the push if there was one. -/
def outcome? : AdapterCall → Option (Element × Option AdapterError)
  | .push _ element answer => some (element, AdapterError.of? answer)
  | _ => none

/-- The outcomes of the pushes among calls, in order. -/
def outcomes (calls : List AdapterCall) : List (Element × Option AdapterError) :=
  calls.filterMap outcome?

theorem outcomes_concat (calls : List AdapterCall) (call : AdapterCall) :
    outcomes (calls ++ [call]) = outcomes calls ++ call.outcome?.toList := by
  cases houtcome : call.outcome? <;> simp [outcomes, houtcome]

end AdapterCall

open AdapterCall

namespace Workload

/-- The outcomes of the pushes of a course from an element on. -/
def Course.outcomes (course : Course) (next : Element) : List (Element × Option AdapterError) :=
  (List.range' next course.made).map (·, none) ++
    course.refused.toList.map (next + course.made, some ·)

theorem Course.outcomes_later (course : Course) (next : Element) :
    Course.outcomes { course with made := course.made + 1 } next =
      (next, none) :: course.outcomes (next + 1) := by
  simp [Course.outcomes, List.range'_succ, Nat.add_right_comm, Nat.add_assoc]

end Workload

namespace Recorded

variable {adapter : Adapter σ η} {handle : Nat × η} {element : Element} {recorded : Recorded σ}

theorem push_eq_ok {newer : η} {state : σ}
    (h : adapter.push handle.2 element recorded.state = (.ok newer, state)) :
    adapter.recording.push handle element recorded =
      (.ok (recorded.next, newer),
        recorded.record (.push handle.1 element (.ok recorded.next)) state) := by
  simp only [Adapter.recording, h, Except.map]

theorem push_eq_error {error : AdapterError} {state : σ}
    (h : adapter.push handle.2 element recorded.state = (.error error, state)) :
    adapter.recording.push handle element recorded =
      (.error error, recorded.record (.push handle.1 element (.error error)) state) := by
  simp only [Adapter.recording, h, Except.map]

/-- Giving a version back is no push, and leads where the adapter itself is led. -/
theorem retire_eq (adapter : Adapter σ η) (handle : Nat × η) (recorded : Recorded σ) :
    let retired := adapter.recording.retire handle recorded
    (retired.1, retired.2.state) = adapter.retire handle.2 recorded.state ∧
      outcomes retired.2.calls = outcomes recorded.calls := by
  have hkind : adapter.recording.kind = adapter.kind := rfl
  constructor
  · simp only [Adapter.retire, hkind]
    split <;> rfl
  · rcases hretired : adapter.recording.retire handle recorded with ⟨answer, after⟩
    rcases retire_cases hretired with ⟨-, hcalls⟩ | hcalls
    · rw [hcalls]
    · rw [hcalls, outcomes_concat]
      exact List.append_nil _

variable {cost : Nat} {refusal : Element → Option AdapterError}

/-- The recorded pushes take the course that the refusals set. -/
theorem outcomes_pushFrom (regularity : Workload.Regularity adapter cost refusal)
    {current : Nat × η} {next : Element} (h : regularity.one current.2 next recorded.state)
    (count : Nat) :
    outcomes (adapter.recording.pushFrom current next count recorded).2.calls =
      outcomes recorded.calls ++ (Workload.courseFrom refusal next count).outcomes next := by
  induction count generalizing recorded current next with
  | zero => exact (List.append_nil _).symm
  | succ count ih =>
    rw [Adapter.pushFrom, Workload.courseFrom]
    cases hrefusal : refusal next with
    | some error =>
      have hpush := regularity.push_error h hrefusal
      rw [push_eq_error hpush.eq_mk]
      dsimp only
      rw [Adapter.abandon, (retire_eq adapter current _).2, record, outcomes_concat]
      rfl
    | none =>
      obtain ⟨newer, hpush⟩ := regularity.push_ok h hrefusal
      have hrelease := regularity.release_older hpush.holds
      rw [push_eq_ok hpush.eq_mk]
      dsimp only
      let pushed := recorded.record (.push current.1 next (.ok recorded.next))
        (adapter.push current.2 next recorded.state).2
      obtain ⟨hstate, houtcomes⟩ := retire_eq adapter current pushed
      rcases hretired : adapter.recording.retire current pushed with ⟨answer, retired⟩
      have hadapter : adapter.retire current.2 pushed.state = (.ok (), _) :=
        (regularity.retire_eq current.2 pushed.state).trans hrelease.eq_mk
      rw [hretired, hadapter] at hstate
      rw [hretired] at houtcomes
      obtain ⟨rfl, hstate⟩ := Prod.mk.inj hstate
      have hone : regularity.one newer (next + 1) retired.state := hstate ▸ hrelease.holds
      have hlater := @ih retired (recorded.next, newer) (next + 1) hone
      dsimp only
      have hpushed : outcomes pushed.calls = outcomes recorded.calls ++ [(next, none)] :=
        outcomes_concat _ _
      rw [hlater, houtcomes, hpushed, Workload.Course.outcomes_later, List.append_assoc]
      rfl

/-- The recorded pushes of an invocation take the course that the refusals set. -/
theorem outcomes_build (regularity : Workload.Regularity adapter cost refusal) {state : σ}
    (h : regularity.ready state) (workload : Workload) :
    outcomes (workload.build adapter.recording { state }).2.calls =
      (Workload.courseFrom refusal 0 workload.len).outcomes 0 := by
  let recorded : Recorded σ := { state }
  have hone : regularity.one (adapter.recording.empty recorded).1.2 0
      (adapter.recording.empty recorded).2.state := (regularity.empty h).1
  exact outcomes_pushFrom regularity hone workload.len

theorem outcomes_run (regularity : Workload.Regularity adapter cost refusal) {state : σ}
    (h : regularity.ready state) (workload : Workload) :
    outcomes (workload.run adapter.recording { state }).2.calls =
      (Workload.courseFrom refusal 0 workload.len).outcomes 0 := by
  have hbuilt := outcomes_build regularity h workload
  unfold Workload.run
  split
  next error built hbuild => rwa [hbuild] at hbuilt
  next last built hbuild =>
    rw [hbuild] at hbuilt
    exact (retire_eq adapter last built).2.trans hbuilt

theorem outcomes_materialize (regularity : Workload.Regularity adapter cost refusal) {state : σ}
    (h : regularity.ready state) (workload : Workload) :
    outcomes (workload.materialize adapter.recording { state }).2.calls =
      (Workload.courseFrom refusal 0 workload.len).outcomes 0 := by
  have hbuilt := outcomes_build regularity h workload
  unfold Workload.materialize
  split
  next error built hbuild => rwa [hbuild] at hbuilt
  next last built hbuild =>
    rw [hbuild] at hbuilt
    rcases hread : adapter.recording.read last built with ⟨contents, seen⟩
    have hseen : outcomes seen.calls = outcomes built.calls := by
      rw [read_eq hread, outcomes_concat]
      exact List.append_nil _
    have hretired := (retire_eq adapter last seen).2
    rcases hretire : adapter.recording.retire last seen with ⟨answer, after⟩
    rw [hretire] at hretired
    have hafter : outcomes after.calls = (Workload.courseFrom refusal 0 workload.len).outcomes 0 :=
      hretired.trans (hseen.trans hbuilt)
    cases contents <;> cases answer <;> simpa only [hretire] using hafter

end Recorded

/-! ## Stores that count their versions -/

/-- What else holds afterwards. -/
theorem Adapter.Yields.and {α : Type} {adapter : Adapter σ η} {before : σ}
    {outcome : Except AdapterError α × σ} {answer : Except AdapterError α} {cost : Nat}
    {holds also : σ → Prop} (h : adapter.Yields before outcome answer cost holds)
    (halso : also outcome.2) :
    adapter.Yields before outcome answer cost fun state ↦ holds state ∧ also state :=
  ⟨h.answer_eq, ⟨h.holds, halso⟩, h.charged_eq⟩

namespace ReleasedStore

variable {κ : Type → Type} [SlotStore κ] {inner : Adapter σ η} {store after : ReleasedStore σ η κ}
  {handle newer : ReleasedHandle} {element : Element}

theorem live_read (handle : ReleasedHandle) (store : ReleasedStore σ η κ) :
    ((inner.releasedIn κ).read handle store).2.live = store.live := by
  simp only [Adapter.releasedIn]
  split <;> rfl

theorem live_push_error {error : AdapterError}
    (h : (inner.releasedIn κ).push handle element store = (.error error, after)) :
    after.live = store.live := by
  cases hlookup : store.lookup handle with
  | none =>
    have hstale : ((inner.releasedIn κ).push handle element store).2 = store :=
      push_of_stale hlookup element
    rw [h] at hstale
    exact congrArg live hstale
  | some version =>
    rw [push_of_lookup hlookup] at h
    split at h
    next => cases h; rfl
    next => cases h

variable [LawfulSlotStore κ]

theorem live_ofInner (state : σ) : (ofInner state : ReleasedStore σ η κ).live = 0 :=
  LawfulSlotStore.size_empty

theorem live_keep (store : ReleasedStore σ η κ) (version : η) :
    (store.keep version).2.live = store.live + 1 :=
  LawfulSlotStore.size_insert _ _

theorem live_empty (store : ReleasedStore σ η κ) :
    ((inner.releasedIn κ).empty store).2.live = store.live + 1 :=
  live_keep _ _

theorem live_push_ok (h : (inner.releasedIn κ).push handle element store = (.ok newer, after)) :
    after.live = store.live + 1 := by
  cases hlookup : store.lookup handle with
  | none => simp [Adapter.releasedIn, hlookup] at h
  | some version =>
    rw [push_of_lookup hlookup] at h
    split at h
    next => cases h
    next => cases h; exact live_keep _ _

theorem live_release (inner : Adapter σ η) {version : η}
    (hlookup : store.lookup handle = some version) :
    ((inner.releasedIn κ).release handle store).2.live + 1 = store.live := by
  have htaken : (SlotStore.get? store.versions handle.slot).isSome := by
    simp [lookup_eq_some_iff.mp hlookup]
  rw [release_of_lookup hlookup]
  exact LawfulSlotStore.size_erase _ _ htaken

/-- A released store serves a workload as its inner adapter would, and stores the versions that the
workload holds and no others. -/
def countedRegularity (κ : Type → Type) [SlotStore κ] [LawfulSlotStore κ] {inner : Adapter σ η}
    {cost : Nat} {refusal : Element → Option AdapterError}
    (inside : Workload.Regularity inner cost refusal) :
    Workload.Regularity (inner.releasedIn κ) cost refusal where
  ready store := (regularity κ inside).ready store ∧ store.live = 0
  one handle count store := (regularity κ inside).one handle count store ∧ store.live = 1
  two older newer count store :=
    (regularity κ inside).two older newer count store ∧ store.live = 2
  ended store := (regularity κ inside).ended store ∧ store.live = 0
  ready_of_ended h := ⟨(regularity κ inside).ready_of_ended h.1, h.2⟩
  release_collected := (regularity κ inside).release_collected
  empty {store} h := by
    obtain ⟨hone, hcharged⟩ := (regularity κ inside).empty h.1
    exact ⟨⟨hone, by rw [live_empty, h.2]⟩, hcharged⟩
  push_ok h hrefusal := by
    obtain ⟨newer, hpush⟩ := (regularity κ inside).push_ok h.1 hrefusal
    exact ⟨newer, hpush.and (by rw [live_push_ok hpush.eq_mk, h.2])⟩
  push_error h hrefusal := by
    have hpush := (regularity κ inside).push_error h.1 hrefusal
    exact hpush.and (by rw [live_push_error hpush.eq_mk, h.2])
  read h := ((regularity κ inside).read h.1).and (by rw [live_read, h.2])
  release_one h := by
    obtain ⟨⟨version, hlookup, -⟩, hlive⟩ := id h
    have hrelease := live_release inner hlookup
    exact ((regularity κ inside).release_one h.1).and (by omega)
  release_older h := by
    obtain ⟨⟨version, -, hlookup, -⟩, hlive⟩ := id h
    have hrelease := live_release inner hlookup
    exact ((regularity κ inside).release_older h.1).and (by omega)

end ReleasedStore

/-! ## Limited adapters -/

namespace Workload

/-- The pushes that a limit refuses. -/
def refusalBeyond (limit : Nat) (element : Element) : Option AdapterError :=
  if element < limit then none else some (.capacity limit)

/-- Pushes get as far as the limit admits. -/
theorem courseFrom_refusalBeyond {limit next : Nat} (hnext : next ≤ limit) (count : Nat) :
    courseFrom (refusalBeyond limit) next count =
      if next + count ≤ limit then ⟨count, none⟩
      else ⟨limit - next, some (.capacity limit)⟩ := by
  induction count generalizing next with
  | zero => rw [courseFrom, Nat.add_zero, if_pos hnext]
  | succ count ih =>
    rw [courseFrom, refusalBeyond]
    by_cases hroom : next < limit
    · have hsum : next + 1 + count = next + (count + 1) := by omega
      rw [if_pos hroom, ih hroom, Nat.succ_eq_add_one, hsum]
      dsimp only
      by_cases hfits : next + (count + 1) ≤ limit
      · rw [if_pos hfits, if_pos hfits]
      · have hleft : limit - (next + 1) + 1 = limit - next := by omega
        rw [if_neg hfits, if_neg hfits, hleft]
    · have hlast : next = limit := Nat.le_antisymm hnext (Nat.le_of_not_lt hroom)
      rw [if_neg hroom, if_neg (by omega), hlast, Nat.sub_self]

end Workload

namespace Adapter

/-- Copied arrays with a limit, or stores over them at any depth, in the state that they start
from. -/
inductive Limited (limit : Nat) : {σ η : Type} → Adapter σ η → σ → Prop where
  | copyArray : Limited limit (.copyArray limit) ()
  | released (κ : Type → Type) [SlotStore κ] [LawfulSlotStore κ] {σ η : Type}
    {inner : Adapter σ η} {state : σ} (h : Limited limit inner state) :
    Limited limit (inner.releasedIn κ) (.ofInner state)

/-- Copied arrays, or stores over them at any depth none of which has a version. -/
inductive HoldsNothing : {σ η : Type} → Adapter σ η → σ → Prop where
  | copyArray (limit : Nat) : HoldsNothing (.copyArray limit) ()
  | released (κ : Type → Type) [SlotStore κ] {σ η : Type} {inner : Adapter σ η}
    {store : ReleasedStore σ η κ} (hlive : store.live = 0) (h : HoldsNothing inner store.inner) :
    HoldsNothing (inner.releasedIn κ) store

variable {adapter : Adapter σ η} {state : σ} {limit : Nat}

theorem HoldsNothing.checkReleased_eq (h : adapter.HoldsNothing state) :
    adapter.checkReleased state = .ok () := by
  cases h with
  | copyArray limit => rfl
  | released κ hlive h => simp only [checkReleased, releasedIn, hlive]

namespace Limited

theorem maxLen_eq (h : adapter.Limited limit state) : adapter.maxLen = some limit := by
  induction h with
  | copyArray => rfl
  | released κ _ ih => exact ih

/-- Invocations are served up to the limit, and leave no store with a version. -/
theorem exists_regularity (h : adapter.Limited limit state) :
    ∃ regularity : Workload.Regularity adapter 0 (Workload.refusalBeyond limit),
      regularity.ready state ∧ ∀ {after}, regularity.ended after → adapter.HoldsNothing after := by
  induction h with
  | copyArray => exact ⟨copyArrayRegularity limit, trivial, fun _ ↦ .copyArray limit⟩
  | released κ _ ih =>
    obtain ⟨inside, hready, hended⟩ := ih
    exact ⟨ReleasedStore.countedRegularity κ inside, ⟨hready, ReleasedStore.live_ofInner _⟩,
      fun {after} h ↦ .released κ h.2 (hended h.1)⟩

variable {adapter : Adapter σ η} {start : σ} {limit : Nat}

theorem fits_iff (h : adapter.Limited limit start) (workload : Workload) :
    workload.fits adapter = true ↔ workload.len ≤ limit := by
  rw [Workload.fits, h.maxLen_eq]
  exact decide_eq_true_iff

theorem skipReasonOf_eq (h : adapter.Limited limit start) (workload : Workload) :
    Case.skipReasonOf adapter workload =
      if workload.len ≤ limit then none
      else some s!"{workload.len} pushes exceed the adapter limit of {limit}" := by
  rw [Case.skipReasonOf, h.maxLen_eq]
  simp only [h.fits_iff]

end Limited

end Adapter

namespace Workload.Regularity

variable {adapter : Adapter σ η} {cost limit : Nat} {state : σ} {workload : Workload}
  (regularity : Regularity adapter cost (refusalBeyond limit))
  (hended : ∀ {after}, regularity.ended after → adapter.HoldsNothing after)

include hended

/-- An invocation of a case that fits succeeds, and the next one may start after it. -/
theorem invokeAs_of_le (hready : regularity.ready state) (hlen : workload.len ≤ limit)
    (label : String) (reads : Bool) :
    ∃ after, (Case.named label adapter state workload).invokeAs reads =
        some (.ok (), Case.named label adapter after workload) ∧ regularity.ready after := by
  have hcourse : courseFrom (refusalBeyond limit) 0 workload.len = ⟨workload.len, none⟩ := by
    rw [courseFrom_refusalBeyond (Nat.zero_le limit), Nat.zero_add, if_pos hlen]
  cases reads with
  | false =>
    have hrun := regularity.run hready workload
    rw [hcourse] at hrun
    refine ⟨_, ?_, regularity.ready_of_ended hrun.holds⟩
    rw [Case.invokeAs_named_false]
    simp only [Case.replyOf, hrun.answer_eq, Course.answer, (hended hrun.holds).checkReleased_eq]
    rfl
  | true =>
    have hmaterialize := regularity.materialize hready workload
    rw [hcourse] at hmaterialize
    refine ⟨_, ?_, regularity.ready_of_ended hmaterialize.holds⟩
    rw [Case.invokeAs_named_true]
    simp only [Case.replyOf, hmaterialize.answer_eq, Course.answer,
      (hended hmaterialize.holds).checkReleased_eq]
    rfl

/-- All invocations of a case that fits succeed, one after the other. -/
theorem answers_of_le (hready : regularity.ready state) (hlen : workload.len ≤ limit)
    (label : String) (modes : List Bool) :
    Case.answers modes (Case.named label adapter state workload) =
      some (List.replicate modes.length (.ok ())) := by
  induction modes generalizing state with
  | nil => rfl
  | cons reads modes ih =>
    obtain ⟨after, hfirst, hafter⟩ := regularity.invokeAs_of_le hended hready hlen label reads
    rw [Case.answers, hfirst]
    dsimp only
    rw [ih hafter]
    rfl

end Workload.Regularity

/-! ## Declared and enforced limits -/

/-- The limit that copied arrays declare, alone or in stores at any depth, is the one that they
enforce. A workload of at most that length fits, and its invocations succeed. A longer one does not
fit, and its invocations fail with the limit: every element below the limit is pushed, the push of
the next one is refused, none is tried after it, and no store is left with a version. So a case is
to be skipped, or all its invocations succeed, however many there are. -/
theorem declared_limit_is_enforced {adapter : Adapter σ η} {start : σ} {limit : Nat}
    (h : adapter.Limited limit start) (workload : Workload) (label : String) :
    let run := workload.run adapter.recording { state := start }
    let materialize := workload.materialize adapter.recording { state := start }
    let case := Case.named label adapter start workload
    (run.1, run.2.state) = workload.run adapter start ∧
      (materialize.1, materialize.2.state) = workload.materialize adapter start ∧
      (workload.fits adapter = true ↔ workload.len ≤ limit) ∧
      (run.1 = .ok () ↔ workload.len ≤ limit) ∧
      (materialize.1 = .ok workload.expected ↔ workload.len ≤ limit) ∧
      (limit < workload.len →
        let pushes := (List.range limit).map (·, none) ++ [(limit, some (.capacity limit))]
        run.1 = .error (.capacity limit) ∧ outcomes run.2.calls = pushes ∧
          materialize.1 = .error (.capacity limit) ∧ outcomes materialize.2.calls = pushes) ∧
      adapter.HoldsNothing run.2.state ∧ adapter.HoldsNothing materialize.2.state ∧
      (case.skipReason = none ↔ workload.len ≤ limit) ∧
      (case.skipReason = none → ∀ modes,
        case.answers modes = some (List.replicate modes.length (.ok ()))) := by
  intro run materialize case
  obtain ⟨regularity, hready, hended⟩ := h.exists_regularity
  have hcourse : Workload.courseFrom (Workload.refusalBeyond limit) 0 workload.len =
      if workload.len ≤ limit then ⟨workload.len, none⟩ else ⟨limit, some (.capacity limit)⟩ := by
    rw [Workload.courseFrom_refusalBeyond (Nat.zero_le limit), Nat.zero_add, Nat.sub_zero]
  have hrun_eq : (run.1, run.2.state) = workload.run adapter start :=
    Recorded.run_eq workload adapter _
  have hmaterialize_eq :
      (materialize.1, materialize.2.state) = workload.materialize adapter start :=
    Recorded.materialize_eq workload adapter _
  have hrun := regularity.run hready workload
  have hmaterialize := regularity.materialize hready workload
  rw [← hrun_eq, hcourse] at hrun
  rw [← hmaterialize_eq, hcourse] at hmaterialize
  have hruns : outcomes run.2.calls = _ := Recorded.outcomes_run regularity hready workload
  have hmaterializes : outcomes materialize.2.calls = _ :=
    Recorded.outcomes_materialize regularity hready workload
  rw [hcourse] at hruns hmaterializes
  have hskip : case.skipReason = none ↔ workload.len ≤ limit := by
    simp [case, Case.named, h.skipReasonOf_eq]
  have hfitting (hlen : workload.len ≤ limit) :
      run.1 = .ok () ∧ materialize.1 = .ok workload.expected := by
    rw [if_pos hlen] at hrun hmaterialize
    exact ⟨hrun.answer_eq, hmaterialize.answer_eq⟩
  have hlonger (hlen : limit < workload.len) :
      run.1 = .error (.capacity limit) ∧ materialize.1 = .error (.capacity limit) := by
    rw [if_neg (Nat.not_le_of_lt hlen)] at hrun hmaterialize
    exact ⟨hrun.answer_eq, hmaterialize.answer_eq⟩
  refine ⟨hrun_eq, hmaterialize_eq, h.fits_iff workload, ?_, ?_, fun hlen ↦ ?_,
    hended hrun.holds, hended hmaterialize.holds, hskip,
    fun hnone ↦ regularity.answers_of_le hended hready (hskip.mp hnone) label⟩
  · refine ⟨fun hok ↦ Nat.le_of_not_lt fun hlen ↦ ?_, fun hlen ↦ (hfitting hlen).1⟩
    cases hok.symm.trans (hlonger hlen).1
  · refine ⟨fun hok ↦ Nat.le_of_not_lt fun hlen ↦ ?_, fun hlen ↦ (hfitting hlen).2⟩
    cases hok.symm.trans (hlonger hlen).2
  · obtain ⟨hrun_error, hmaterialize_error⟩ := hlonger hlen
    rw [if_neg (Nat.not_le_of_lt hlen)] at hruns hmaterializes
    refine ⟨hrun_error, ?_, hmaterialize_error, ?_⟩
    · rw [hruns, Workload.Course.outcomes, ← List.range_eq_range']
      simp
    · rw [hmaterializes, Workload.Course.outcomes, ← List.range_eq_range']
      simp

/-- Two stores over arrays of three elements, which four pushes exceed. -/
theorem declared_limit_is_enforced_nested :
    let adapter := ((Adapter.copyArray 3).releasedIn Slots).releasedIn Slots
    let start := ReleasedStore.ofInner (ReleasedStore.ofInner ())
    let run := (Workload.mk 4).run adapter.recording { state := start }
    adapter.Limited 3 start ∧ 3 < (Workload.mk 4).len ∧
      outcomes run.2.calls = [(0, none), (1, none), (2, none), (3, some (.capacity 3))] ∧
      adapter.HoldsNothing run.2.state := by
  intro adapter start run
  have hlimited : adapter.Limited 3 start := .released Slots (.released Slots .copyArray)
  obtain ⟨-, -, -, -, -, hlonger, hnothing, -⟩ := declared_limit_is_enforced hlimited ⟨4⟩ "nested"
  have hlen : 3 < (Workload.mk 4).len := by decide
  exact ⟨hlimited, hlen, (hlonger hlen).2.1, hnothing⟩

end PushBench
