import PushBench.Adapter.Counting
import PushBench.Proofs.Adapter.Released

/-!
# Counted handles and released stores

Counted handles keep books on what is live and what was given back; a released store keeps versions
in slots. Over an adapter of sequences whose pushes fail alike no client can tell one from the
other: both are ledgers of versions, and the books of the one and the slots of the other are two
ways to keep them.
-/

namespace PushBench

variable {σ η : Type}

theorem VersionLedger.version?_enter_eq {ledger : VersionLedger σ η} {version : η}
    (hfresh : ledger.stored.length ∉ ledger.returned) (number : Nat) :
    (ledger.enter version).2.version? number =
      if number = ledger.stored.length then some version else ledger.version? number := by
  rcases Nat.lt_trichotomy number ledger.stored.length with hlt | rfl | hgt
  · rw [if_neg (Nat.ne_of_lt hlt), ledger.version?_enter version hlt]
  · simp [version?, enter, hfresh]
  · have hold : ledger.stored[number]? = none := List.getElem?_eq_none (Nat.le_of_lt hgt)
    have hnew : (ledger.stored ++ [version])[number]? = none :=
      List.getElem?_eq_none (by simp only [List.length_append, List.length_singleton]; omega)
    simp only [version?, enter, hold, hnew, if_neg (Nat.ne_of_gt hgt)]

/-- Shared sequences that charge nothing, where one element cannot be pushed. -/
def Adapter.failing (name : String) (failPushAt : Option Element) :
    Adapter Nat (List Element) where
  name
  kind := .collected
  empty charged := ([], charged)
  push version element charged :=
    if failPushAt = some element then (.error (.backend s!"injected failure at {element}"), charged)
    else (.ok (element :: version), charged)
  read version charged := (.ok version.reverse, charged)
  charged := id

namespace HandleCounts

variable {inner : Adapter σ η} {failPushAt : Option Element}

/-- The books say what a ledger over an adapter of sequences says: which numbers are live, and which
were given back. -/
structure Mirrors (sequences : Simulation inner (Adapter.failing inner.name failPushAt))
    (books : HandleCounts) (ledger : VersionLedger σ η) : Prop where
  inner : sequences.states ledger.inner 0
  issued_eq : books.issued = ledger.stored.length
  contains_live (number : Nat) :
    books.live.contains number = (ledger.version? number).isSome
  contains_counts (number : Nat) :
    books.counts.contains number = decide (number ∈ ledger.returned)
  live_add_returned : books.live.size + ledger.returned.length = ledger.stored.length
  lt_of_mem_returned {number : Nat} : number ∈ ledger.returned → number < ledger.stored.length

/-- A counted handle stands for a number, and the version of that number has its elements. -/
structure StandsFor (sequences : Simulation inner (Adapter.failing inner.name failPushAt))
    (ledger : VersionLedger σ η) (handle : CountedHandle) (number : Nat) : Prop where
  id_eq : handle.id = number
  stored : ∃ version, ledger.stored[number]? = some version ∧
    sequences.handles ledger.inner 0 version handle.version

/-- Books and ledgers correspond, and so do counted handles and numbers. -/
def correspondence (sequences : Simulation inner (Adapter.failing inner.name failPushAt)) :
    Correspondence HandleCounts (VersionLedger σ η) CountedHandle Nat :=
  ⟨Mirrors sequences, fun _ ledger ↦ StandsFor sequences ledger⟩

variable {sequences : Simulation inner (Adapter.failing inner.name failPushAt)}
  {books : HandleCounts} {ledger : VersionLedger σ η} {handle : CountedHandle} {number : Nat}

theorem mirrors_start {state : σ} (hstate : sequences.states state 0) :
    Mirrors sequences .start (.start state) where
  inner := hstate
  issued_eq := rfl
  contains_live number := by simp [start, VersionLedger.start, VersionLedger.version?]
  contains_counts number := by simp [start, VersionLedger.start]
  live_add_returned := rfl
  lt_of_mem_returned hnumber := by simp [VersionLedger.start] at hnumber

theorem Mirrors.live_size_eq (h : Mirrors sequences books ledger) :
    books.live.size = ledger.outstanding := by
  have hlive := h.live_add_returned
  unfold VersionLedger.outstanding
  omega

theorem Mirrors.fresh (h : Mirrors sequences books ledger) :
    ledger.stored.length ∉ ledger.returned :=
  fun hmem ↦ Nat.lt_irrefl _ (h.lt_of_mem_returned hmem)

theorem Mirrors.lt_of_live (h : Mirrors sequences books ledger)
    (hlive : books.live.contains number = true) : number < ledger.stored.length := by
  rw [h.contains_live] at hlive
  obtain ⟨version, hversion⟩ := Option.isSome_iff_exists.mp hlive
  unfold VersionLedger.version? at hversion
  split at hversion
  · cases hversion
  · exact (List.getElem?_eq_some_iff.mp hversion).1

/-- An operation of the inner adapter that keeps all its versions keeps the books. -/
theorem Mirrors.keeps_withInner (h : Mirrors sequences books ledger) {state : σ}
    (hkeeps : sequences.Keeps ledger.inner 0 state 0) :
    (correspondence sequences).Keeps books ledger books { ledger with inner := state } where
  states := { h with inner := hkeeps.states }
  handles handle number hhandle := by
    obtain ⟨version, hstored, hversion⟩ := hhandle.stored
    exact ⟨hhandle.id_eq, version, hstored, hkeeps.handles _ _ hversion⟩

theorem Mirrors.issue (h : Mirrors sequences books ledger) (version : η)
    (elements : List Element) :
    Mirrors sequences (books.issue elements).2 (ledger.enter version).2 where
  inner := h.inner
  issued_eq := by simp [HandleCounts.issue, VersionLedger.enter, h.issued_eq]
  contains_live number := by
    rw [VersionLedger.version?_enter_eq h.fresh]
    simp only [HandleCounts.issue, Std.TreeSet.contains_insert, h.contains_live, h.issued_eq]
    by_cases hnumber : number = ledger.stored.length
    · simp [hnumber]
    · simp [hnumber, Ne.symm hnumber]
  contains_counts := h.contains_counts
  live_add_returned := by
    have hissued : books.live.contains books.issued = false := by
      simp [h.contains_live, h.issued_eq, VersionLedger.version?]
    have hlive := h.live_add_returned
    simp only [HandleCounts.issue, VersionLedger.enter, Std.TreeSet.size_insert, hissued,
      List.length_append, List.length_singleton, Bool.false_eq_true, if_false]
    omega
  lt_of_mem_returned hnumber := by
    have hlt := h.lt_of_mem_returned hnumber
    simp only [VersionLedger.enter, List.length_append]
    omega

/-- A new handle stands for the next number. -/
theorem Mirrors.standsFor_issue (h : Mirrors sequences books ledger) {version : η}
    {elements : List Element} (hversion : sequences.handles ledger.inner 0 version elements) :
    StandsFor sequences (ledger.enter version).2 (books.issue elements).1
      (ledger.enter version).1 where
  id_eq := h.issued_eq
  stored := ⟨version, by simp [VersionLedger.enter], hversion⟩

theorem Mirrors.keeps_issue (h : Mirrors sequences books ledger) (version : η)
    (elements : List Element) :
    (correspondence sequences).Keeps books ledger (books.issue elements).2
      (ledger.enter version).2 where
  states := h.issue version elements
  handles handle number hhandle := by
    obtain ⟨kept, hstored, hkept⟩ := hhandle.stored
    refine ⟨hhandle.id_eq, kept, ?_, hkept⟩
    have hlt := (List.getElem?_eq_some_iff.mp hstored).1
    simp only [VersionLedger.enter, List.getElem?_append_left hlt, hstored]

theorem Mirrors.enterRelease (h : Mirrors sequences books ledger)
    (hlive : books.live.contains handle.id = true) :
    Mirrors sequences (books.enterRelease false handle)
      { ledger with returned := handle.id :: ledger.returned } where
  inner := h.inner
  issued_eq := h.issued_eq
  contains_live number := by
    rw [VersionLedger.version?_returned]
    simp only [HandleCounts.enterRelease, Bool.false_eq_true, if_false,
      Std.TreeSet.contains_erase, h.contains_live]
    by_cases hnumber : number = handle.id
    · simp [hnumber]
    · simp [hnumber, Ne.symm hnumber]
  contains_counts number := by
    simp only [HandleCounts.enterRelease, Std.TreeMap.contains_insert, h.contains_counts]
    by_cases hnumber : number = handle.id
    · simp [hnumber]
    · simp [hnumber, Ne.symm hnumber]
  live_add_returned := by
    have hsize := h.live_add_returned
    -- there is a live number, so taking one away from their count is not cut off at zero
    have hpositive : books.live.size ≠ 0 := by
      intro hzero
      have hempty : books.live.isEmpty = true := by
        simpa [Std.TreeSet.isEmpty_eq_size_eq_zero] using hzero
      rw [Std.TreeSet.contains_of_isEmpty hempty] at hlive
      cases hlive
    simp only [HandleCounts.enterRelease, Bool.false_eq_true, if_false, Std.TreeSet.size_erase,
      hlive, if_true, List.length_cons]
    omega
  lt_of_mem_returned {number} hnumber := by
    rcases List.mem_cons.mp hnumber with rfl | hnumber
    · exact h.lt_of_live hlive
    · exact h.lt_of_mem_returned hnumber

theorem Mirrors.keeps_enterRelease (h : Mirrors sequences books ledger)
    (hlive : books.live.contains handle.id = true) :
    (correspondence sequences).Keeps books ledger (books.enterRelease false handle)
      { ledger with returned := handle.id :: ledger.returned } :=
  ⟨h.enterRelease hlive, fun _ _ hhandle ↦ ⟨hhandle.id_eq, hhandle.stored⟩⟩

/-- What the books and the ledger say of a handle: it is live and its version has its elements, or
it was given back. -/
theorem Mirrors.cases_of_standsFor (h : Mirrors sequences books ledger)
    (hhandle : StandsFor sequences ledger handle number) :
    (books.live.contains handle.id = true ∧ ∃ version, ledger.version? number = some version ∧
        sequences.handles ledger.inner 0 version handle.version) ∨
      (books.live.contains handle.id = false ∧ books.counts.contains handle.id = true ∧
        ledger.version? number = none) := by
  obtain ⟨rfl, version, hstored, hversion⟩ := hhandle
  rw [h.contains_live, h.contains_counts]
  by_cases hreturned : handle.id ∈ ledger.returned
  · exact .inr (by simp [VersionLedger.version?, hreturned])
  · exact .inl (by simpa [VersionLedger.version?, hreturned, hstored] using hversion)

theorem checkLive_of_live (hlive : books.live.contains handle.id = true) :
    books.checkLive handle = .ok () := by
  rw [checkLive, if_pos hlive]

theorem checkLive_of_stale (hstale : books.live.contains handle.id = false) :
    books.checkLive handle = .error (.protocol (.useAfterRelease handle.id)) := by
  rw [checkLive, if_neg (by simp [hstale])]

/-- No operation tells counted handles from the ledger of the versions of an adapter of
sequences whose pushes fail alike. -/
def simulation (sequences : Simulation inner (Adapter.failing inner.name failPushAt))
    (name : String) : Simulation (Adapter.counting name { failPushAt }) inner.ledger where
  toCorrespondence := correspondence sequences
  kind_eq := rfl
  empty {books ledger} hbooks := by
    obtain ⟨hkeeps, hversion⟩ := sequences.empty hbooks.inner
    have hinner := hbooks.keeps_withInner hkeeps
    exact ⟨hinner.trans (hinner.states.keeps_issue _ _), hinner.states.standsFor_issue hversion⟩
  push {books ledger handle number} hbooks hhandle element := by
    obtain rfl := hhandle.id_eq
    rcases hbooks.cases_of_standsFor hhandle with
      ⟨hlive, version, hversion, helements⟩ | ⟨hstale, -, hversion⟩
    · have hpush := sequences.push hbooks.inner helements element
      simp only [Adapter.counting, checkLive_of_live hlive, Adapter.ledger, hversion]
      rcases hinner : inner.push version element ledger.inner with ⟨answer, state⟩
      simp only [hinner, Adapter.failing] at hpush
      split at hpush
      next hfails =>
        rw [if_pos hfails]
        obtain ⟨hkeeps, hanswers⟩ := hpush
        have hafter := hbooks.keeps_withInner hkeeps
        cases hanswers with
        | error error => exact ⟨hafter, .error _⟩
      next hfails =>
        rw [if_neg hfails]
        obtain ⟨hkeeps, hanswers⟩ := hpush
        have hafter := hbooks.keeps_withInner hkeeps
        cases hanswers with
        | @ok next next' hnext =>
          exact ⟨hafter.trans (hafter.states.keeps_issue next (element :: handle.version)),
            .ok (hafter.states.standsFor_issue hnext)⟩
    · simp only [Adapter.counting, checkLive_of_stale hstale, Adapter.ledger, hversion]
      exact ⟨.refl hbooks, .error _⟩
  release {books ledger handle number} hbooks hhandle := by
    obtain rfl := hhandle.id_eq
    rcases hbooks.cases_of_standsFor hhandle with
      ⟨hlive, version, hversion, helements⟩ | ⟨hstale, hcounts, hversion⟩
    · obtain ⟨hkeeps, hanswers⟩ := sequences.release hbooks.inner helements
      have hafter := hbooks.keeps_withInner hkeeps
      simp only [Adapter.counting, hlive, checkLive_of_live hlive, Adapter.ledger, hversion,
        Bool.not_true, Bool.and_false, Bool.false_eq_true, if_false]
      exact ⟨hafter.trans (hafter.states.keeps_enterRelease hlive), .of_eq hanswers.eq.symm⟩
    · simp only [Adapter.counting, hstale, hcounts, Adapter.ledger, hversion,
        Bool.not_false, Bool.and_true, if_true]
      exact ⟨.refl hbooks, .error _⟩
  read {books ledger handle number} hbooks hhandle := by
    obtain rfl := hhandle.id_eq
    rcases hbooks.cases_of_standsFor hhandle with
      ⟨hlive, version, hversion, helements⟩ | ⟨hstale, -, hversion⟩
    · obtain ⟨hkeeps, hanswers⟩ := sequences.read hbooks.inner helements
      simp only [Adapter.counting, checkLive_of_live hlive, Adapter.ledger, hversion]
      exact ⟨hbooks.keeps_withInner hkeeps, .of_eq hanswers.eq.symm⟩
    · simp only [Adapter.counting, checkLive_of_stale hstale, Adapter.ledger, hversion]
      exact ⟨.refl hbooks, .error _⟩

end HandleCounts

/-- Shared sequences that charge for every push, or that declare a limit, cannot be told from those
that do not. -/
def Adapter.sequenceSimulation (name : String) (cost : Nat) (maxLen : Option Nat) :
    Simulation (Adapter.sequence name cost maxLen) (Adapter.persistent name) where
  states _ charged := charged = 0
  handles _ _ := Eq
  kind_eq := rfl
  empty hcharged := ⟨⟨hcharged, fun _ _ ↦ id⟩, rfl⟩
  push hcharged hhandle _ := ⟨⟨hcharged, fun _ _ ↦ id⟩, .ok (congrArg _ hhandle)⟩
  release hcharged _ := ⟨⟨hcharged, fun _ _ ↦ id⟩, .ok rfl⟩
  read hcharged hhandle := ⟨⟨hcharged, fun _ _ ↦ id⟩, .ok (congrArg List.reverse hhandle)⟩

/-- Whatever steps a client takes with empty versions, pushes, second references, releases and
reads, in whatever order and with stale handles: over an adapter that cannot be told from shared
sequences, a released store and counted handles give the same answers at every step, with the same
numbers of handles, and the same number of versions is outstanding after every step. -/
theorem counted_session_eq_released (κ : Type → Type) [SlotStore κ] [LawfulSlotStore κ]
    (name : String) (inner : Adapter σ η)
    (sequences : Simulation inner (Adapter.persistent inner.name)) {start : σ}
    (hstart : sequences.states start 0) (steps : List SessionStep)
    (hsteps : ∀ workload, .fits workload ∉ steps) :
    let counted count := Session.run (Adapter.counting name {}) (steps.take count)
      { state := HandleCounts.start }
    let released count := Session.run (inner.releasedIn κ) (steps.take count)
      { state := ReleasedStore.ofInner start }
    ∀ count,
      (counted count).1.map (SessionAnswer.map CountedHandle.id) =
          (released count).1.map (SessionAnswer.map ReleasedHandle.id) ∧
        (Adapter.counting name {}).outstanding (counted count).2.state =
          (inner.releasedIn κ).outstanding (released count).2.state := by
  intro counted released count
  let ideal := Session.run inner.ledger (steps.take count) { state := VersionLedger.start start }
  have hcovered {τ θ : Type} (left : Adapter τ θ) (step : SessionStep)
      (hstep : step ∈ steps.take count) : Simulation.Covers left inner.ledger step := by
    cases step with
    | fits workload => exact absurd (List.mem_of_mem_take hstep) (hsteps workload)
    | _ => trivial
  let alike : Simulation inner (Adapter.failing inner.name none) := sequences
  have hcountedStart : (HandleCounts.simulation alike name).SessionsAgree
      { state := .start } { state := .start start } :=
    ⟨HandleCounts.mirrors_start hstart, rfl, fun _ ↦ by simp [Session.handle?]⟩
  have hreleasedStart : (ReleasedStore.simulation κ inner).SessionsAgree
      { state := .ofInner start } { state := .start start } :=
    ⟨ReleasedStore.refines_ofInner start, rfl, fun _ ↦ by simp [Session.handle?]⟩
  obtain ⟨hcounted, hbooks⟩ := hcountedStart.run CountedHandle.id id
    (fun hhandle ↦ hhandle.id_eq) (steps.take count) (hcovered _)
  obtain ⟨hreleased, hstore⟩ := hreleasedStart.run ReleasedHandle.id id
    (fun hhandle ↦ hhandle.id_eq) (steps.take count) (hcovered _)
  refine ⟨hcounted.trans hreleased.symm, congrArg some ?_⟩
  have hlive : (counted count).2.state.live.size + ideal.2.state.returned.length =
      ideal.2.state.stored.length := hbooks.states.live_add_returned
  have hkept : (released count).2.state.live + ideal.2.state.returned.length =
      ideal.2.state.stored.length := hstore.states.live_add_returned
  exact Nat.add_right_cancel (hlive.trans hkept.symm)

/-- Second references are refused alike after their handle was given back, over sequences that
charge for every push. -/
theorem counted_session_eq_released_stale :
    let steps : List SessionStep :=
      [.empty, .copy 0, .push 0 7, .release 0, .push 2 8, .read 1, .release 1, .read 3]
    let counted := Session.run (Adapter.counting "counted" {}) steps { state := .start }
    counted.1.map (SessionAnswer.map CountedHandle.id) =
        [.issued 0 0, .issued 1 0, .issued 2 1, .released, .issued 3 2,
          .failed (.protocol (.useAfterRelease 0)), .failed (.protocol (.doubleRelease 0)),
          .contents [7, 8]] ∧
      (Adapter.counting "counted" {}).outstanding counted.2.state = some 2 := by
  intro steps counted
  let sequences := Adapter.sequenceSimulation "vector" 5 none
  have hstart : sequences.states 0 0 := rfl
  obtain ⟨hanswers, houtstanding⟩ := counted_session_eq_released Slots "counted"
    (Adapter.sequence "vector" 5 none) sequences hstart steps (by simp [steps]) 8
  exact ⟨hanswers.trans rfl, houtstanding.trans rfl⟩

end PushBench
