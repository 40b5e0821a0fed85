import PushBench.Adapter.CopyArray
import PushBench.Case
import PushBench.Proofs.Workload.Counted
import PushBench.Proofs.Workload.Regularity
import PushBench.Proofs.Workload.Stored

/-!
# Standard adapters

Shared sequences, copied arrays, counted handles, and released stores over any of them serve the
append workload regularly. All of them leave nothing behind that is outstanding, unless releases are
ignored; then no invocation passes for clean.
-/

namespace PushBench

variable {σ η : Type}

/-! ## Collected versions -/

/-- The newest first, one more element comes before the others. -/
theorem cons_eq_reverse_range {version : List Element} {count : Nat}
    (h : version = (List.range count).reverse) :
    count :: version = (List.range (count + 1)).reverse := by
  rw [h, List.range_succ, List.reverse_append]
  rfl

namespace Adapter

/-- Shared sequences take every push. -/
def sequenceRegularity (name : String) (cost : Nat) (maxLen : Option Nat) :
    Workload.Regularity (sequence name cost maxLen) cost fun _ ↦ none where
  ready _ := True
  one version count _ := version = (List.range count).reverse
  two _ newer count _ := newer = (List.range count).reverse
  ended _ := True
  ready_of_ended _ := trivial
  release_collected _ _ _ := rfl
  empty _ := ⟨rfl, rfl⟩
  push_ok {version count charged} h _ := ⟨count :: version, rfl, cons_eq_reverse_range h, rfl⟩
  push_error _ hrefusal := by cases hrefusal
  read {version count charged} h := by
    have hread : version.reverse = List.range count := by rw [h, List.reverse_reverse]
    exact ⟨congrArg Except.ok hread, h, rfl⟩
  release_one _ := ⟨rfl, trivial, rfl⟩
  release_older h := ⟨rfl, h, rfl⟩

/-- Copied arrays take pushes up to their limit. -/
def copyArrayRegularity (limit : Nat) :
    Workload.Regularity (copyArray limit) 0 fun element ↦
      if element < limit then none else some (.capacity limit) where
  ready _ := True
  one version count _ := version.toList = List.range count
  two _ newer count _ := newer.toList = List.range count
  ended _ := True
  ready_of_ended _ := trivial
  release_collected _ _ _ := rfl
  empty _ := ⟨rfl, rfl⟩
  push_ok {version count state} h hrefusal := by
    have hsize : version.size = count := by rw [← Array.length_toList, h, List.length_range]
    have hroom : count < limit := by simpa using hrefusal
    refine ⟨version.push count, ?_, ?_, rfl⟩
    · simp [copyArray, hsize, hroom]
    · rw [Array.toList_push, h, List.range_succ]
  push_error {version count state error} h hrefusal := by
    have hsize : version.size = count := by rw [← Array.length_toList, h, List.length_range]
    split at hrefusal
    next => cases hrefusal
    next hfull =>
      cases hrefusal
      simp only [copyArray, hsize, if_neg hfull]
      exact ⟨rfl, h, rfl⟩
  read h := ⟨congrArg _ h, h, rfl⟩
  release_one _ := ⟨rfl, trivial, rfl⟩
  release_older h := ⟨rfl, h, rfl⟩

end Adapter

/-! ## Counted handles -/

namespace HandleCounts

/-- A live handle of a version with a number of elements. -/
structure IsLive (books : HandleCounts) (handle : CountedHandle) (count : Nat) : Prop where
  live : books.live.contains handle.id = true
  version_eq : handle.version = (List.range count).reverse

theorem IsLive.issue {books : HandleCounts} {handle : CountedHandle} {count : Nat}
    (h : books.IsLive handle count) (version : List Element) :
    (books.issue version).2.IsLive handle count where
  live := by simp [HandleCounts.issue, Std.TreeSet.contains_insert, h.live]
  version_eq := h.version_eq

theorem isLive_issue (books : HandleCounts) {version : List Element} {count : Nat}
    (hversion : version = (List.range count).reverse) :
    (books.issue version).2.IsLive (books.issue version).1 count where
  live := by simp [HandleCounts.issue]
  version_eq := hversion

/-- The refusals of counted handles. -/
def refusal (faults : CountingFaults) (element : Element) : Option AdapterError :=
  if faults.failPushAt = some element then some (.backend s!"injected failure at {element}")
  else none

/-- Counted handles take every push but the one that is to fail. Where releases are ignored, the
handles of an invocation are still live after it. -/
def regularity (name : String) (faults : CountingFaults) :
    Workload.Regularity (Adapter.counting name faults) 0 (refusal faults) where
  ready books := books.Bounded
  one handle count books := books.Bounded ∧ books.IsLive handle count
  two older newer count books :=
    books.Bounded ∧ (∃ before, books.IsLive older before) ∧ books.IsLive newer count ∧
      older.id ≠ newer.id
  ended books := books.Bounded ∧ (faults.ignoreReleases = true → 0 < books.live.size)
  ready_of_ended h := h.1
  release_collected hkind := by cases hkind
  empty {books} h := ⟨⟨h.issue [], books.isLive_issue rfl⟩, rfl⟩
  push_ok {handle count books} h hrefusal := by
    obtain ⟨hbounded, hlive⟩ := h
    have haccepted : faults.failPushAt ≠ some count := by simpa [refusal] using hrefusal
    have hpush := push_of_live name faults hlive.live count
    rw [if_neg haccepted] at hpush
    have hnewer := books.isLive_issue (cons_eq_reverse_range hlive.version_eq)
    have holder := hlive.issue (count :: handle.version)
    have hne : handle.id ≠ books.issued := Nat.ne_of_lt (hbounded.lt_of_live hlive.live)
    rw [hpush]
    have hissued := hbounded.issue (count :: handle.version)
    exact ⟨_, rfl, ⟨hissued, ⟨count, holder⟩, hnewer, hne⟩, rfl⟩
  push_error {handle count books error} h hrefusal := by
    have hpush := push_of_live name faults h.2.live count
    unfold refusal at hrefusal
    split at hrefusal
    next hfailing =>
      cases hrefusal
      rw [hpush, if_pos hfailing]
      exact ⟨rfl, h, rfl⟩
    next => cases hrefusal
  read {handle count books} h := by
    rw [read_of_live name faults h.2.live, h.2.version_eq, List.reverse_reverse]
    exact ⟨rfl, h, rfl⟩
  release_one {handle count books} h := by
    obtain ⟨hbounded, hlive⟩ := h
    rw [release_of_live name faults hlive.live]
    refine ⟨rfl, ⟨hbounded.enterRelease _ hlive.live, fun hignoring ↦ ?_⟩, rfl⟩
    have hsize : books.live.size ≠ 0 := by
      have hnonempty := Std.TreeSet.isEmpty_eq_false_of_contains hlive.live
      simpa [Std.TreeSet.isEmpty_eq_size_eq_zero] using hnonempty
    simpa [HandleCounts.enterRelease, hignoring] using Nat.pos_of_ne_zero hsize
  release_older {older newer count books} h := by
    obtain ⟨hbounded, ⟨before, holder⟩, hnewer, hne⟩ := h
    rw [release_of_live name faults holder.live]
    refine ⟨rfl, ⟨hbounded.enterRelease _ holder.live, ?_, hnewer.version_eq⟩, rfl⟩
    have hother : compare older.id newer.id ≠ .eq := by simpa using hne
    simp only [HandleCounts.enterRelease]
    split <;> simp [Std.TreeSet.contains_erase, hnewer.live, hother]

end HandleCounts

/-! ## Released stores -/

namespace ReleasedStore

variable {κ : Type → Type} [SlotStore κ] [LawfulSlotStore κ]

theorem lookup_keep_fst (store : ReleasedStore σ η κ) (version : η) :
    store.lookup (store.keep version).1 = none := by
  simp [lookup, keep, LawfulSlotStore.get?_insert_fst]

theorem lookup_keep_new (store : ReleasedStore σ η κ) (version : η) :
    (store.keep version).2.lookup (store.keep version).1 = some version := by
  rw [lookup_keep, if_pos rfl]

/-- A handle that refers to a version still does beside a new one, and differs from it. -/
theorem lookup_keep_of_lookup {store : ReleasedStore σ η κ} {handle : ReleasedHandle}
    {stored : η} (h : store.lookup handle = some stored) (version : η) :
    handle ≠ (store.keep version).1 ∧ (store.keep version).2.lookup handle = some stored := by
  have hother : handle ≠ (store.keep version).1 := by
    rintro rfl
    simp [lookup_keep_fst] at h
  exact ⟨hother, by rw [lookup_keep, if_neg hother, h]⟩

/-- A released store serves a workload as its inner adapter would. -/
def regularity (κ : Type → Type) [SlotStore κ] [LawfulSlotStore κ] {inner : Adapter σ η}
    {cost : Nat} {refusal : Element → Option AdapterError}
    (inside : Workload.Regularity inner cost refusal) :
    Workload.Regularity (inner.releasedIn κ) cost refusal where
  ready store := inside.ready store.inner
  one handle count store :=
    ∃ version, store.lookup handle = some version ∧ inside.one version count store.inner
  two older newer count store :=
    ∃ version next, store.lookup older = some version ∧ store.lookup newer = some next ∧
      older ≠ newer ∧ inside.two version next count store.inner
  ended store := inside.ended store.inner
  ready_of_ended h := inside.ready_of_ended h
  release_collected hkind := by cases hkind
  empty {store} h := by
    obtain ⟨hone, hcharged⟩ := inside.empty h
    exact ⟨⟨_, lookup_keep_new _ _, hone⟩, hcharged⟩
  push_ok {handle count store} h hrefusal := by
    obtain ⟨version, hlookup, hone⟩ := h
    obtain ⟨next, hpush⟩ := inside.push_ok hone hrefusal
    let grown : ReleasedStore σ η κ :=
      { store with inner := (inner.push version count store.inner).2 }
    have hgrown : grown.lookup handle = some version := hlookup
    obtain ⟨hne, hkept⟩ := lookup_keep_of_lookup hgrown next
    rw [push_of_lookup hlookup, hpush.eq_mk]
    exact ⟨_, rfl, ⟨version, next, hkept, grown.lookup_keep_new next, hne, hpush.holds⟩,
      hpush.charged_eq⟩
  push_error {handle count store error} h hrefusal := by
    obtain ⟨version, hlookup, hone⟩ := h
    have hpush := inside.push_error hone hrefusal
    rw [push_of_lookup hlookup, hpush.eq_mk]
    exact ⟨rfl, ⟨version, hlookup, hpush.holds⟩, hpush.charged_eq⟩
  read {handle count store} h := by
    obtain ⟨version, hlookup, hone⟩ := h
    have hread := inside.read hone
    rw [read_of_lookup hlookup]
    exact ⟨hread.answer_eq, ⟨version, hlookup, hread.holds⟩, hread.charged_eq⟩
  release_one {handle count store} h := by
    obtain ⟨version, hlookup, hone⟩ := h
    have hrelease := inside.release_one hone
    rw [release_of_lookup hlookup]
    exact ⟨hrelease.answer_eq, hrelease.holds, hrelease.charged_eq⟩
  release_older {older newer count store} h := by
    obtain ⟨version, next, holder, hnewer, hne, htwo⟩ := h
    have hrelease := inside.release_older htwo
    let shrunk : ReleasedStore σ η κ :=
      { store with inner := (inner.release version store.inner).2 }
    have hshrunk : shrunk.lookup older = some version := holder
    rw [release_of_lookup holder]
    refine ⟨hrelease.answer_eq, ⟨next, ?_, hrelease.holds⟩, hrelease.charged_eq⟩
    rw [lookup_vacate_of_lookup hshrunk, if_neg hne.symm]
    exact hnewer

end ReleasedStore

/-! ## Standard adapters -/

namespace Adapter

/-- Adapters that have a kind of versions of their own, or store those of another one, in the state
that they start from. -/
inductive Standard : {σ η : Type} → Adapter σ η → σ → Prop where
  | sequence (name : String) (cost : Nat) (maxLen : Option Nat) (charged : Nat) :
    Standard (.sequence name cost maxLen) charged
  | copyArray (limit : Nat) : Standard (.copyArray limit) ()
  | counting (name : String) (faults : CountingFaults) : Standard (.counting name faults) .start
  | released (κ : Type → Type) [SlotStore κ] [LawfulSlotStore κ] {σ η : Type}
    {inner : Adapter σ η} {state : σ} (h : Standard inner state) :
    Standard (inner.releasedIn κ) (.ofInner state)

/-- Invocations from a state on are served regularly. -/
def IsRegular (adapter : Adapter σ η) (state : σ) : Prop :=
  ∃ (cost : Nat) (refusal : Element → Option AdapterError)
    (regularity : Workload.Regularity adapter cost refusal), regularity.ready state

/-- Invocations from a state on leave nothing behind that is outstanding. -/
def IsTidy (adapter : Adapter σ η) (state : σ) : Prop :=
  ∃ tidy : Workload.Invariant adapter, tidy.idle state ∧
    ∀ {after : σ}, tidy.idle after → adapter.checkReleased after = .ok ()

/-- An invocation from a state does not pass for clean. -/
def IsLeaky (adapter : Adapter σ η) (state : σ) : Prop :=
  ∀ (workload : Workload) (elements : List Element),
    (Case.replyOf adapter state (workload.materialize adapter state)).answer ≠ .ok elements

variable {adapter : Adapter σ η} {state : σ}

theorem Standard.isRegular (h : adapter.Standard state) : adapter.IsRegular state := by
  induction h with
  | sequence name cost maxLen charged => exact ⟨_, _, sequenceRegularity name cost maxLen, trivial⟩
  | copyArray limit => exact ⟨_, _, copyArrayRegularity limit, trivial⟩
  | counting name faults =>
    exact ⟨_, _, HandleCounts.regularity name faults, HandleCounts.bounded_start⟩
  | released κ _ ih =>
    obtain ⟨cost, refusal, inside, hready⟩ := ih
    exact ⟨_, _, ReleasedStore.regularity κ inside, hready⟩

/-- An adapter that does not count its versions has none outstanding. -/
theorem isTidy_of_outstanding (h : ∀ state, adapter.outstanding state = none) (state : σ) :
    adapter.IsTidy state :=
  ⟨Reaches.invariant adapter state, .refl adapter state, fun {after} _ ↦ by
    rw [checkReleased, h after]⟩

theorem isTidy_counting (name : String) (failing : Option Element) :
    (counting name { failPushAt := failing }).IsTidy .start := by
  refine ⟨HandleCounts.invariant name failing HandleCounts.bounded_start, .nil _, fun h ↦ ?_⟩
  have hlive := HandleCounts.Holds.size_live h
  simp only [checkReleased, counting, hlive]
  rfl

theorem isLeaky_counting (name : String) (failing : Option Element) :
    (counting name { failPushAt := failing, ignoreReleases := true }).IsLeaky .start := by
  intro workload elements hanswer
  let adapter := counting name { failPushAt := failing, ignoreReleases := true }
  let regularity := HandleCounts.regularity name
    { failPushAt := failing, ignoreReleases := true }
  have hyields := regularity.materialize HandleCounts.bounded_start workload
  have hlive : 0 < (workload.materialize adapter .start).2.live.size := hyields.holds.2 rfl
  obtain ⟨live, hsize⟩ := Nat.exists_eq_succ_of_ne_zero (Nat.ne_of_gt hlive)
  have houtstanding : adapter.outstanding (workload.materialize adapter .start).2 =
      some (live + 1) := congrArg some hsize
  unfold Case.replyOf at hanswer
  dsimp only at hanswer
  split at hanswer
  next => cases hanswer
  next =>
    rw [checkReleased, houtstanding] at hanswer
    cases hanswer

theorem isTidy_released (κ : Type → Type) [SlotStore κ] [LawfulSlotStore κ]
    (inner : Adapter σ η) (state : σ) : (inner.releasedIn κ).IsTidy (.ofInner state) := by
  refine ⟨ReleasedStore.invariant inner (.ofInner state), .nil inner _, fun h ↦ ?_⟩
  have hlive := ReleasedStore.Holds.live_eq h
  have hempty : (ReleasedStore.ofInner state : ReleasedStore σ η κ).live = 0 :=
    LawfulSlotStore.size_empty
  simp only [checkReleased, releasedIn, hlive, hempty]
  rfl

/-- No invocation passes for clean, or all leave nothing behind. -/
theorem Standard.isTidy_or_isLeaky (h : adapter.Standard state) :
    adapter.IsTidy state ∨ adapter.IsLeaky state := by
  cases h with
  | sequence name cost maxLen => exact .inl (isTidy_of_outstanding (fun _ ↦ rfl) _)
  | copyArray limit => exact .inl (isTidy_of_outstanding (fun _ ↦ rfl) _)
  | counting name faults =>
    rcases faults with ⟨failing, ignoring⟩
    cases ignoring with
    | false => exact .inl (isTidy_counting name failing)
    | true => exact .inr (isLeaky_counting name failing)
  | released κ _ => exact .inl (isTidy_released κ _ _)

end Adapter

end PushBench
