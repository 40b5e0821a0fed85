import Mathlib.Algebra.GroupWithZero.Nat
import PushBench.Proofs.Adapter.Contract
import PushBench.Proofs.Adapter.Counting
import PushBench.Proofs.Adapter.Reachability

/-!
# The books of counted handles

In every state that counted handles come to, the books are in order: the releases are those that are
counted, and only handles that were issued are entered. Where releases are heeded, every handle is
live or was given back once; where they are ignored, every handle is live.
-/

namespace PushBench

namespace HandleCounts

variable {name : String} {faults : CountingFaults} {books : HandleCounts} {handle : CountedHandle}

/-! ## Operations -/

theorem push_of_live (name : String) (faults : CountingFaults)
    (hlive : books.live.contains handle.id = true) (element : Element) :
    (Adapter.counting name faults).push handle element books =
      if faults.failPushAt = some element then
        (.error (.backend s!"injected failure at {element}"), books)
      else
        (.ok (books.issue (element :: handle.version)).1,
          (books.issue (element :: handle.version)).2) := by
  simp only [Adapter.counting, checkLive_of_live hlive]

theorem push_of_stale (hstale : books.live.contains handle.id = false) (element : Element) :
    (Adapter.counting name faults).push handle element books =
      (.error (.protocol (.useAfterRelease handle.id)), books) := by
  simp only [Adapter.counting, checkLive_of_stale hstale]

theorem release_of_live (name : String) (faults : CountingFaults)
    (hlive : books.live.contains handle.id = true) :
    (Adapter.counting name faults).release handle books =
      (.ok (), books.enterRelease faults.ignoreReleases handle) := by
  simp only [Adapter.counting, checkLive_of_live hlive, hlive, Bool.not_true, Bool.and_false,
    Bool.false_eq_true, if_false]

theorem release_of_stale (hstale : books.live.contains handle.id = false) :
    (Adapter.counting name faults).release handle books =
      (.error (.protocol (if books.counts.contains handle.id then .doubleRelease handle.id
        else .useAfterRelease handle.id)), books) := by
  simp only [Adapter.counting, checkLive_of_stale hstale, hstale, Bool.not_false, Bool.and_true]
  split <;> rfl

theorem read_of_live (name : String) (faults : CountingFaults)
    (hlive : books.live.contains handle.id = true) :
    (Adapter.counting name faults).read handle books = (.ok handle.version.reverse, books) := by
  simp only [Adapter.counting, checkLive_of_live hlive]

theorem read_of_stale (hstale : books.live.contains handle.id = false) :
    (Adapter.counting name faults).read handle books =
      (.error (.protocol (.useAfterRelease handle.id)), books) := by
  simp only [Adapter.counting, checkLive_of_stale hstale]

theorem read_snd (handle : CountedHandle) (books : HandleCounts) :
    ((Adapter.counting name faults).read handle books).2 = books := by
  simp only [Adapter.counting]
  split <;> rfl

theorem getElem?_counts_enterRelease (ignoring : Bool) (handle : CountedHandle) (number : Nat) :
    (books.enterRelease ignoring handle).counts[number]? =
      if number = handle.id then some (books.counts[number]?.getD 0 + 1)
      else books.counts[number]? := by
  simp only [enterRelease, Std.TreeMap.getElem?_insert, Std.TreeMap.getD_eq_getD_getElem?,
    Nat.compare_eq_eq]
  by_cases hnumber : number = handle.id
  · simp [hnumber]
  · simp [hnumber, Ne.symm hnumber]

/-! ## Reachable books -/

/-- Only handles that were issued are entered in the books. -/
structure Bounded (books : HandleCounts) : Prop where
  lt_of_live {number : Nat} : books.live.contains number = true → number < books.issued
  counts_eq_none {number : Nat} : books.issued ≤ number → books.counts[number]? = none

theorem Bounded.not_live (h : books.Bounded) {number : Nat} (hnumber : books.issued ≤ number) :
    books.live.contains number = false :=
  Bool.eq_false_iff.mpr fun hlive ↦ Nat.not_lt_of_le hnumber (h.lt_of_live hlive)

theorem bounded_start : start.Bounded where
  lt_of_live hlive := by simp [start] at hlive
  counts_eq_none _ := by simp [start]

theorem Bounded.issue (h : books.Bounded) (version : List Element) :
    (books.issue version).2.Bounded where
  lt_of_live {number} hlive := by
    simp only [HandleCounts.issue, Std.TreeSet.contains_insert, Bool.or_eq_true, beq_iff_eq,
      Nat.compare_eq_eq] at hlive
    rcases hlive with rfl | hlive
    · exact Nat.lt_succ_self _
    · exact Nat.lt_succ_of_lt (h.lt_of_live hlive)
  counts_eq_none hnumber := h.counts_eq_none (Nat.le_of_succ_le hnumber)

theorem Bounded.enterRelease (h : books.Bounded) (ignoring : Bool)
    (hlive : books.live.contains handle.id = true) :
    (books.enterRelease ignoring handle).Bounded where
  lt_of_live {number} hnumber := by
    cases ignoring with
    | true => exact h.lt_of_live hnumber
    | false =>
      simp only [HandleCounts.enterRelease, Bool.false_eq_true, if_false,
        Std.TreeSet.contains_erase, Bool.and_eq_true] at hnumber
      exact h.lt_of_live hnumber.2
  counts_eq_none {number} hnumber := by
    have hother : number ≠ handle.id := fun heq ↦
      Nat.not_lt_of_le hnumber (heq ▸ h.lt_of_live hlive)
    rw [getElem?_counts_enterRelease, if_neg hother]
    exact h.counts_eq_none hnumber

/-- Whatever is done with counted handles, only handles that were issued are entered. -/
theorem Bounded.of_reaches {start : HandleCounts} (hstart : start.Bounded)
    (h : (Adapter.counting name faults).Reaches start books) : books.Bounded := by
  obtain ⟨errors, h⟩ := h
  induction h with
  | start => exact hstart
  | empty _ ih => exact ih.issue []
  | @push _ books handle element _ ih =>
    cases hlive : books.live.contains handle.id with
    | false => rwa [push_of_stale hlive]
    | true =>
      rw [push_of_live name faults hlive]
      split
      · exact ih
      · exact ih.issue (element :: handle.version)
  | @release _ books handle _ ih =>
    cases hlive : books.live.contains handle.id with
    | false => rwa [release_of_stale hlive]
    | true =>
      rw [release_of_live name faults hlive]
      exact ih.enterRelease _ hlive
  | read handle _ ih => rwa [read_snd]

/-! ## Books in order -/

/-- Every handle that was issued is live. -/
structure AllLive (books : HandleCounts) : Prop where
  contains_live {number : Nat} : number < books.issued → books.live.contains number = true
  size_live : books.live.size = books.issued

theorem allLive_start : start.AllLive where
  contains_live hnumber := by simp [start] at hnumber
  size_live := rfl

theorem AllLive.issue (h : books.AllLive) (hbounded : books.Bounded) (version : List Element) :
    (books.issue version).2.AllLive where
  contains_live {number} hnumber := by
    simp only [HandleCounts.issue, Std.TreeSet.contains_insert, Bool.or_eq_true, beq_iff_eq,
      Nat.compare_eq_eq]
    rcases Nat.lt_succ_iff_lt_or_eq.mp hnumber with hold | rfl
    · exact .inr (h.contains_live hold)
    · exact .inl rfl
  size_live := by
    simp only [HandleCounts.issue, Std.TreeSet.size_insert, hbounded.not_live (Nat.le_refl _),
      Bool.false_eq_true, if_false, h.size_live]

/-- Every handle that was issued is live, or was given back once. -/
def Settled (books : HandleCounts) : Prop :=
  ∀ number, number < books.issued →
    books.counts[number]? = if books.live.contains number then none else some 1

theorem settled_start : start.Settled := fun _ hnumber ↦ absurd hnumber (Nat.not_lt_zero _)

theorem Settled.issue (h : books.Settled) (hbounded : books.Bounded) (version : List Element) :
    (books.issue version).2.Settled := by
  intro number hnumber
  simp only [HandleCounts.issue, Std.TreeSet.contains_insert]
  rcases Nat.lt_succ_iff_lt_or_eq.mp hnumber with hold | rfl
  · have hother : books.issued ≠ number := Nat.ne_of_gt hold
    simp [h number hold, hother]
  · simp [hbounded.counts_eq_none (Nat.le_refl _)]

theorem Settled.enterRelease (h : books.Settled)
    (hlive : books.live.contains handle.id = true) :
    (books.enterRelease false handle).Settled := by
  intro number hnumber
  have hcounts := h number hnumber
  rw [getElem?_counts_enterRelease]
  simp only [HandleCounts.enterRelease, Bool.false_eq_true, if_false, Std.TreeSet.contains_erase]
  by_cases hother : number = handle.id
  · rw [hother, hlive, if_pos rfl] at hcounts
    simp [hother, hcounts]
  · simp [hother, Ne.symm hother, hcounts]

/-! ### The sum of the counts -/

/-- How often handles were given back, all together. -/
def total (books : HandleCounts) : Nat := (books.counts.toList.map Prod.snd).sum

/-- The sum of a table, with one entry set apart. -/
theorem sum_toList_eq (counts : Std.TreeMap Nat Nat) (key : Nat) :
    (counts.toList.map Prod.snd).sum =
      counts.getD key 0 + ((counts.toList.filter (¬key == ·.1)).map Prod.snd).sum := by
  cases hcount : counts[key]? with
  | none =>
    have hall : counts.toList.filter (¬key == ·.1) = counts.toList := by
      refine List.filter_eq_self.mpr fun entry hmem ↦ ?_
      have hentry := Std.TreeMap.mem_toList_iff_getElem?_eq_some.mp hmem
      have hkey : key ≠ entry.1 := fun heq ↦ by rw [← heq, hcount] at hentry; cases hentry
      simp [hkey]
    rw [hall, Std.TreeMap.getD_eq_getD_getElem?, hcount, Option.getD_none, Nat.zero_add]
  | some count =>
    -- entering the count that is there changes nothing
    have hsame : (counts.insert key count).Equiv counts := by
      refine Std.TreeMap.Equiv.of_forall_constGet?_eq fun other ↦ ?_
      rw [Std.TreeMap.getElem?_insert]
      split
      next heq => rw [← Nat.compare_eq_eq.mp heq, hcount]
      next => rfl
    have hperm :=
      (Std.TreeMap.toList_insert_perm (t := counts) (k := key) (v := count)).map Prod.snd
    rw [hsame.toList_eq] at hperm
    rw [hperm.sum_nat, Std.TreeMap.getD_eq_getD_getElem?, hcount]
    rfl

theorem total_enterRelease (ignoring : Bool) (books : HandleCounts) (handle : CountedHandle) :
    (books.enterRelease ignoring handle).total = books.total + 1 := by
  have hperm := (Std.TreeMap.toList_insert_perm (t := books.counts) (k := handle.id)
    (v := books.counts.getD handle.id 0 + 1)).map Prod.snd
  have hsplit := sum_toList_eq books.counts handle.id
  simp only [total, HandleCounts.enterRelease] at hsplit ⊢
  rw [hperm.sum_nat, hsplit, List.map_cons, List.sum_cons]
  omega

/-! ### The contract -/

/-- The books are in order where releases are ignored, or where they are not. -/
structure InOrder (ignoring : Bool) (books : HandleCounts) : Prop where
  bounded : books.Bounded
  releases_eq : books.releases = books.total
  settled : ignoring = false → books.Settled
  allLive : ignoring = true → books.AllLive

variable {ignoring : Bool}

theorem inOrder_start (ignoring : Bool) : start.InOrder ignoring where
  bounded := bounded_start
  releases_eq := rfl
  settled _ := settled_start
  allLive _ := allLive_start

theorem InOrder.issue (h : books.InOrder ignoring) (version : List Element) :
    (books.issue version).2.InOrder ignoring where
  bounded := h.bounded.issue version
  releases_eq := h.releases_eq
  settled hheeded := (h.settled hheeded).issue h.bounded version
  allLive hignored := (h.allLive hignored).issue h.bounded version

theorem InOrder.enterRelease (h : books.InOrder ignoring)
    (hlive : books.live.contains handle.id = true) :
    (books.enterRelease ignoring handle).InOrder ignoring where
  bounded := h.bounded.enterRelease ignoring hlive
  releases_eq := by
    rw [total_enterRelease, ← h.releases_eq]
    rfl
  settled hheeded := by
    subst hheeded
    exact (h.settled rfl).enterRelease hlive
  allLive hignored := by
    subst hignored
    exact ⟨(h.allLive rfl).contains_live, (h.allLive rfl).size_live⟩

/-- A handle that was issued is refused only where releases are heeded. -/
theorem InOrder.heeded_of_stale (h : books.InOrder ignoring) (hissued : handle.id < books.issued)
    (hstale : books.live.contains handle.id = false) : ignoring = false := by
  cases ignoring with
  | false => rfl
  | true =>
    rw [(h.allLive rfl).contains_live hissued] at hstale
    cases hstale

/-- What clients rely on: the books are in order, and where releases are ignored, no use of a handle
is a violation. -/
def terms (faults : CountingFaults) : Terms HandleCounts CountedHandle where
  states books := books.InOrder faults.ignoreReleases
  handles books handle := handle.id < books.issued
  errors error := faults.ignoreReleases = true → ∀ violation, error ≠ .protocol violation

theorem InOrder.keeps_refl (h : books.InOrder faults.ignoreReleases) :
    (terms faults).Keeps books books := .refl h

theorem InOrder.keeps_issue (h : books.InOrder faults.ignoreReleases) (version : List Element) :
    (terms faults).Keeps books (books.issue version).2 :=
  ⟨h.issue version, fun _ hissued ↦ Nat.lt_succ_of_lt hissued⟩

/-- A handle that is refused was given back, so that any error is within the terms. -/
theorem InOrder.honored_of_stale {α : Type} {good : HandleCounts → α → Prop}
    {outcome : Except AdapterError α × HandleCounts} (h : books.InOrder faults.ignoreReleases)
    (hissued : handle.id < books.issued) (hstale : books.live.contains handle.id = false)
    (hfailed : ∃ error, outcome = (.error error, books)) :
    (terms faults).Honored good books outcome := by
  obtain ⟨error, rfl⟩ := hfailed
  refine ⟨h.keeps_refl, nofun, fun _ hignored ↦ ?_⟩
  cases hignored.symm.trans (h.heeded_of_stale hissued hstale)

/-- Counted handles keep their books in order. -/
def contract (name : String) (faults : CountingFaults) :
    Contract (Adapter.counting name faults) where
  toTerms := terms faults
  empty {books} hbooks := ⟨hbooks.keeps_issue [], Nat.lt_succ_self books.issued⟩
  push {books handle} hbooks hissued element := by
    cases hlive : books.live.contains handle.id with
    | false =>
      exact InOrder.honored_of_stale hbooks hissued hlive ⟨_, push_of_stale hlive element⟩
    | true =>
      rw [push_of_live name faults hlive]
      split
      · exact ⟨InOrder.keeps_refl hbooks, nofun, fun herror _ _ ↦ by cases herror; nofun⟩
      · refine ⟨InOrder.keeps_issue hbooks (element :: handle.version), fun hresult ↦ ?_, nofun⟩
        cases hresult
        exact Nat.lt_succ_self books.issued
  release {books handle} hbooks hissued := by
    cases hlive : books.live.contains handle.id with
    | false =>
      exact InOrder.honored_of_stale hbooks hissued hlive ⟨_, release_of_stale hlive⟩
    | true =>
      rw [release_of_live name faults hlive]
      exact ⟨⟨InOrder.enterRelease hbooks hlive, fun _ hother ↦ hother⟩, fun _ ↦ trivial, nofun⟩
  read {books handle} hbooks hissued := by
    cases hlive : books.live.contains handle.id with
    | false =>
      exact InOrder.honored_of_stale hbooks hissued hlive ⟨_, read_of_stale hlive⟩
    | true =>
      rw [read_of_live name faults hlive]
      exact ⟨InOrder.keeps_refl hbooks, fun _ ↦ trivial, nofun⟩

/-! ### Calls that fail -/

/-- An operation that answers an error leaves the state as it was. -/
def KeptOnError {α : Type} (books : HandleCounts)
    (outcome : Except AdapterError α × HandleCounts) : Prop :=
  ∀ error, outcome.1 = .error error → outcome.2 = books

theorem keptOnError_push (name : String) (faults : CountingFaults) (handle : CountedHandle)
    (element : Element) (books : HandleCounts) :
    books.KeptOnError ((Adapter.counting name faults).push handle element books) := by
  cases hlive : books.live.contains handle.id with
  | false => exact fun _ _ ↦ by rw [push_of_stale hlive]
  | true =>
    rw [push_of_live name faults hlive]
    split
    · exact fun _ _ ↦ rfl
    · exact nofun

theorem keptOnError_release (name : String) (faults : CountingFaults) (handle : CountedHandle)
    (books : HandleCounts) :
    books.KeptOnError ((Adapter.counting name faults).release handle books) := by
  cases hlive : books.live.contains handle.id with
  | false => exact fun _ _ ↦ by rw [release_of_stale hlive]
  | true =>
    rw [release_of_live name faults hlive]
    exact nofun

theorem keptOnError_read (name : String) (faults : CountingFaults) (handle : CountedHandle)
    (books : HandleCounts) :
    books.KeptOnError ((Adapter.counting name faults).read handle books) :=
  fun _ _ ↦ read_snd handle books

end HandleCounts

/-- Whatever steps a client takes with counted handles, in whatever order and with second references
to handles that were given back: the releases are those that are counted, only handles that were
issued are live or counted, and a call that fails changes nothing. Where releases are heeded, every
handle that was issued is live or was given back once, and giving back one that is not live is a
double release. Where they are ignored, every handle stays live, and no violation is answered. -/
theorem counted_books_stay_in_order (name : String) (faults : CountingFaults)
    (steps : List SessionStep) :
    let adapter := Adapter.counting name faults
    let outcome := Session.run adapter steps { state := HandleCounts.start }
    let books := outcome.2.state
    books.releases = (books.counts.toList.map Prod.snd).sum ∧
      (∀ number, books.live.contains number = true ∨ books.counts.contains number = true →
        number < books.issued) ∧
      (∀ place handle, outcome.2.handle? place = some handle → handle.id < books.issued) ∧
      (∀ handle, (∀ element, books.KeptOnError (adapter.push handle element books)) ∧
        books.KeptOnError (adapter.release handle books) ∧
        books.KeptOnError (adapter.read handle books)) ∧
      (faults.ignoreReleases = false →
        (∀ number < books.issued,
          Xor (books.live.contains number = true) (books.counts.contains number = true)) ∧
        (∀ number count : Nat, books.counts[number]? = some count → count = 1) ∧
        ∀ handle, handle.id < books.issued → books.live.contains handle.id = false →
          adapter.release handle books =
            (.error (.protocol (.doubleRelease handle.id)), books)) ∧
      (faults.ignoreReleases = true →
        (∀ number < books.issued, books.live.contains number = true) ∧
        ∀ violation, .failed (.protocol violation) ∉ outcome.1) := by
  intro adapter outcome books
  have hstart : (HandleCounts.contract name faults).Admits { state := .start } :=
    ⟨HandleCounts.inOrder_start _, fun hplace ↦ by simp [Session.handle?] at hplace⟩
  obtain ⟨hadmits, herrors⟩ := hstart.run steps
  have hbooks : books.InOrder faults.ignoreReleases := hadmits.states
  have hcounted {number : Nat} (hcontains : books.counts.contains number = true) :
      number < books.issued := by
    by_contra hnumber
    rw [Std.TreeMap.contains_eq_isSome_getElem?,
      hbooks.bounded.counts_eq_none (Nat.le_of_not_lt hnumber)] at hcontains
    cases hcontains
  refine ⟨hbooks.releases_eq, fun number hentered ↦ ?_, fun _ _ ↦ hadmits.handles, ?_, ?_, ?_⟩
  · exact hentered.elim hbooks.bounded.lt_of_live hcounted
  · exact fun handle ↦ ⟨fun _ ↦ HandleCounts.keptOnError_push name faults handle _ books,
      HandleCounts.keptOnError_release name faults handle books,
      HandleCounts.keptOnError_read name faults handle books⟩
  · intro hheeded
    have hsettled := hbooks.settled hheeded
    refine ⟨fun number hnumber ↦ ?_, fun number count hcount ↦ ?_, fun handle hissued hstale ↦ ?_⟩
    · have hcounts := hsettled number hnumber
      rw [Std.TreeMap.contains_eq_isSome_getElem?, hcounts]
      cases books.live.contains number <;> simp [Xor]
    · have hcontains : books.counts.contains number = true := by
        rw [Std.TreeMap.contains_eq_isSome_getElem?, hcount]
        rfl
      have hcounts := hsettled number (hcounted hcontains)
      rw [hcount] at hcounts
      split at hcounts
      next => cases hcounts
      next => exact Option.some.inj hcounts
    · have hcounts := hsettled handle.id hissued
      rw [hstale, if_neg Bool.false_ne_true] at hcounts
      have hcontains : books.counts.contains handle.id = true := by
        rw [Std.TreeMap.contains_eq_isSome_getElem?, hcounts]
        rfl
      rw [HandleCounts.release_of_stale hstale, if_pos hcontains]
  · intro hignored
    refine ⟨fun number ↦ (hbooks.allLive hignored).contains_live, fun violation hmem ↦ ?_⟩
    exact herrors _ hmem hignored violation rfl

/-- A push fails, one of two references is given back, and the other is used and given back again:
where releases are heeded, and where they are ignored. -/
theorem counted_books_stay_in_order_stale :
    let steps : List SessionStep :=
      [.empty, .copy 0, .push 0 7, .push 0 1, .release 0, .read 1, .release 1]
    let heeding := Adapter.counting "counted" { failPushAt := some 7 }
    let ignoring := Adapter.counting "leaky" { failPushAt := some 7, ignoreReleases := true }
    let heeded := Session.run heeding steps { state := .start }
    let ignored := Session.run ignoring steps { state := .start }
    (heeded.2.state.releases = 1 ∧
        heeding.release ⟨0, []⟩ heeded.2.state =
          (.error (.protocol (.doubleRelease 0)), heeded.2.state)) ∧
      (ignored.2.state.counts.toList.map Prod.snd).sum = 2 ∧
        ∀ violation, .failed (.protocol violation) ∉ ignored.1 := by
  intro steps heeding ignoring heeded ignored
  obtain ⟨-, -, -, -, hheeded, -⟩ :=
    counted_books_stay_in_order "counted" { failPushAt := some 7 } steps
  obtain ⟨htotal, -, -, -, -, hignored⟩ :=
    counted_books_stay_in_order "leaky" { failPushAt := some 7, ignoreReleases := true } steps
  obtain ⟨-, -, hrelease⟩ := hheeded rfl
  refine ⟨⟨by decide +kernel, ?_⟩, htotal.symm.trans (by decide +kernel), (hignored rfl).2⟩
  exact hrelease ⟨0, []⟩ (by decide +kernel) (by decide +kernel)

end PushBench
