import PushBench.Proofs.Adapter.Books

/-!
# Counted handles under workloads

The books of counted handles between the start of an invocation and its end: the handles it holds
are live beside those that were live before, and those it gave back were given back once.
-/

namespace PushBench

namespace HandleCounts

variable {name : String} {faults : CountingFaults} {books : HandleCounts} {handle : CountedHandle}

/-! ## Handles of an invocation -/

/-- What an invocation that started with other books has made of them: the handles it holds are its
own and are live beside those that were live before, every other handle it was issued has been given
back once, and nothing else is entered. -/
structure Holds (start books : HandleCounts) (own : List Nat) : Prop where
  issued_le : start.issued ≤ books.issued
  nodup : own.Nodup
  mem_own {number : Nat} : number ∈ own → start.issued ≤ number ∧ number < books.issued
  contains_live (number : Nat) :
    books.live.contains number = (start.live.contains number || decide (number ∈ own))
  size_live : books.live.size = start.live.size + own.length
  counts_eq (number : Nat) :
    books.counts[number]? =
      if start.issued ≤ number ∧ number < books.issued ∧ number ∉ own then some 1
      else start.counts[number]?

namespace Holds

variable {start : HandleCounts} {own : List Nat}

theorem nil (start : HandleCounts) : start.Holds start [] where
  issued_le := Nat.le_refl _
  nodup := .nil
  mem_own hmem := by simp at hmem
  contains_live number := by simp
  size_live := rfl
  counts_eq number := by
    rw [if_neg fun h ↦ Nat.not_lt_of_le h.1 h.2.1]

theorem live_of_mem (h : start.Holds books own) {number : Nat} (hmem : number ∈ own) :
    books.live.contains number = true := by
  simp [h.contains_live, hmem]

/-- A new handle is the invocation's own. -/
theorem issue (h : start.Holds books own) (hstart : start.Bounded) (version : List Element) :
    start.Holds (books.issue version).2 (own ++ [books.issued]) where
  issued_le := Nat.le_succ_of_le h.issued_le
  nodup := by
    refine List.nodup_append.mpr ⟨h.nodup, by simp, fun number hown other hother ↦ ?_⟩
    rw [List.mem_singleton.mp hother]
    exact Nat.ne_of_lt (h.mem_own hown).2
  mem_own {number} hmem := by
    rcases List.mem_append.mp hmem with hown | hnew
    · exact ⟨(h.mem_own hown).1, Nat.lt_succ_of_lt (h.mem_own hown).2⟩
    · rw [List.mem_singleton.mp hnew]
      exact ⟨h.issued_le, Nat.lt_succ_self _⟩
  contains_live number := by
    simp only [HandleCounts.issue, Std.TreeSet.contains_insert, h.contains_live]
    by_cases hnew : number = books.issued
    · simp [hnew]
    · simp [hnew, Ne.symm hnew]
  size_live := by
    have hfresh : books.live.contains books.issued = false := by
      have hold := hstart.not_live h.issued_le
      have hown : books.issued ∉ own := fun hmem ↦ Nat.lt_irrefl _ (h.mem_own hmem).2
      rw [h.contains_live, hold, decide_eq_false hown, Bool.or_false]
    simp only [HandleCounts.issue, Std.TreeSet.size_insert, hfresh, h.size_live,
      List.length_append, List.length_singleton, Bool.false_eq_true, if_false, Nat.add_assoc]
  counts_eq number := by
    have hcounts := h.counts_eq number
    have hnone : start.counts[books.issued]? = none := hstart.counts_eq_none h.issued_le
    by_cases hnew : number = books.issued
    · subst hnew
      simpa [HandleCounts.issue, hnone] using hcounts
    · have hlt : number < books.issued + 1 ↔ number < books.issued := by omega
      simpa [HandleCounts.issue, hnew, hlt] using hcounts

/-- A handle that is given back is the invocation's no more. -/
theorem release (h : start.Holds books (handle.id :: own)) (hstart : start.Bounded) :
    start.Holds (books.enterRelease false handle) own where
  issued_le := h.issued_le
  nodup := (List.nodup_cons.mp h.nodup).2
  mem_own hmem := h.mem_own (List.mem_cons_of_mem _ hmem)
  contains_live number := by
    have hlow := (h.mem_own List.mem_cons_self).1
    have hown := (List.nodup_cons.mp h.nodup).1
    simp only [HandleCounts.enterRelease, Bool.false_eq_true, if_false,
      Std.TreeSet.contains_erase, h.contains_live]
    by_cases hnumber : number = handle.id
    · rw [hnumber, hstart.not_live hlow, decide_eq_false hown]
      simp
    · simp [hnumber, Ne.symm hnumber]
  size_live := by
    have hlive := h.live_of_mem List.mem_cons_self
    have hsize := h.size_live
    rw [List.length_cons] at hsize
    simp only [HandleCounts.enterRelease, Bool.false_eq_true, if_false, Std.TreeSet.size_erase,
      hlive, if_true]
    omega
  counts_eq number := by
    obtain ⟨hlow, hhigh⟩ := h.mem_own List.mem_cons_self
    have hcounts := h.counts_eq number
    rw [getElem?_counts_enterRelease]
    by_cases hnumber : number = handle.id
    · have hown := (List.nodup_cons.mp h.nodup).1
      subst hnumber
      have hnone : books.counts[handle.id]? = none := by
        rw [hcounts, if_neg (by simp), hstart.counts_eq_none hlow]
      rw [if_pos rfl, hnone, if_pos ⟨hlow, hhigh, hown⟩]
      rfl
    · rw [if_neg hnumber, hcounts]
      simp [HandleCounts.enterRelease, hnumber]

/-- An invocation gives its own handles back without fail. -/
theorem retire_eq (h : start.Holds books (handle.id :: own)) (name : String)
    (failing : Option Element) :
    (Adapter.counting name { failPushAt := failing }).retire handle books =
      (.ok (), books.enterRelease false handle) :=
  release_of_live _ _ (h.live_of_mem List.mem_cons_self)

end Holds

/-- What holds of the books of counted handles while a workload drives them. -/
def invariant (name : String) (failing : Option Element) {start : HandleCounts}
    (hstart : start.Bounded) :
    Workload.Invariant (Adapter.counting name { failPushAt := failing }) where
  idle books := start.Holds books []
  one handle books := start.Holds books [handle.id]
  two older newer books := start.Holds books [older.id, newer.id]
  empty h := h.issue hstart []
  push_ok {handle newer books after} element h hpush := by
    rw [push_of_live _ _ (h.live_of_mem List.mem_cons_self)] at hpush
    split at hpush
    next => cases hpush
    next =>
      cases hpush
      exact h.issue hstart _
  push_error {handle books after error} element h hpush := by
    rw [push_of_live _ _ (h.live_of_mem List.mem_cons_self)] at hpush
    split at hpush
    next =>
      cases hpush
      exact h
    next => cases hpush
  read {handle books} h := by rwa [read_snd]
  retire_one h := by
    rw [h.retire_eq]
    exact h.release hstart
  retire_older h := by
    rw [h.retire_eq]
    exact h.release hstart

/-- Counted handles fail a workload only by the push that is to fail. -/
theorem notes (name : String) (failing : Option Element) {start : HandleCounts}
    (hstart : start.Bounded) :
    (invariant name failing hstart).Notes fun error _ ↦ ∃ message, error = .backend message where
  push element h hpush := by
    rw [push_of_live _ _ (Holds.live_of_mem h List.mem_cons_self)] at hpush
    split at hpush
    next =>
      cases hpush
      exact ⟨_, rfl⟩
    next => cases hpush
  read h hread := by
    rw [read_of_live _ _ (Holds.live_of_mem h List.mem_cons_self)] at hread
    cases hread
  retire_one h hretire := by cases (Holds.retire_eq h name failing).symm.trans hretire
  retire_older h hretire := by cases (Holds.retire_eq h name failing).symm.trans hretire
  abandon _ hnoted := hnoted

/-! ## Releases that are ignored -/

/-- Where releases are ignored, an invocation has been issued some handles so far, and all of them
stay live. -/
structure Piles (start books : HandleCounts) (count : Nat) : Prop where
  bounded : books.Bounded
  allLive : books.AllLive
  issued_eq : books.issued = start.issued + count

namespace Piles

variable {start : HandleCounts} {count : Nat}

theorem issue (h : start.Piles books count) (version : List Element) :
    start.Piles (books.issue version).2 (count + 1) where
  bounded := h.bounded.issue version
  allLive := h.allLive.issue h.bounded version
  issued_eq := congrArg (· + 1) h.issued_eq

/-- A handle that was issued is given back, and nothing changes. -/
theorem release (h : start.Piles books count) (name : String)
    (hissued : handle.id < books.issued) :
    ∃ after, (Adapter.counting name { ignoreReleases := true }).retire handle books =
      (.ok (), after) ∧ after.issued = books.issued ∧ start.Piles after count :=
  ⟨_, release_of_live _ _ (h.allLive.contains_live hissued), rfl,
    h.bounded.enterRelease true (h.allLive.contains_live hissued),
    ⟨h.allLive.contains_live, h.allLive.size_live⟩, h.issued_eq⟩

/-- Every push is issued one more handle. -/
theorem pushFrom (h : start.Piles books count) (name : String) (hissued : handle.id < books.issued)
    (next : Element) (pushes : Nat) :
    ∃ last after, (Adapter.counting name { ignoreReleases := true }).pushFrom handle next pushes
      books = (.ok last, after) ∧ last.id < after.issued ∧
        start.Piles after (count + pushes) := by
  induction pushes generalizing books handle next count with
  | zero => exact ⟨handle, books, rfl, hissued, h⟩
  | succ pushes ih =>
    have hpush :=
      push_of_live name { ignoreReleases := true } (h.allLive.contains_live hissued) next
    rw [if_neg (by simp)] at hpush
    have hnewer := h.issue (next :: handle.version)
    obtain ⟨retired, hretire, hsame, hretired⟩ :=
      hnewer.release name (Nat.lt_succ_of_lt hissued)
    have hnewest : (books.issue (next :: handle.version)).1.id < retired.issued :=
      hsame ▸ Nat.lt_succ_self books.issued
    obtain ⟨last, after, hrest, hlast, hafter⟩ := ih hretired hnewest (next + 1)
    refine ⟨last, after, ?_, hlast, by rwa [Nat.add_right_comm, Nat.add_assoc] at hafter⟩
    rw [Adapter.pushFrom, hpush]
    dsimp only
    rw [hretire]
    exact hrest

end Piles

/-- Where releases are ignored, all pushes succeed, and the handles that were issued for them stay
live. -/
theorem Piles.build (name : String) (hbounded : books.Bounded) (hlive : books.AllLive)
    (workload : Workload) :
    ∃ last built, workload.build (Adapter.counting name { ignoreReleases := true }) books =
      (.ok last, built) ∧ last.id < built.issued ∧ books.Piles built (workload.len + 1) := by
  have hfirst : books.Piles (books.issue []).2 1 := (Piles.mk hbounded hlive rfl).issue []
  have hissued : (books.issue []).1.id < (books.issue []).2.issued := Nat.lt_succ_self _
  obtain ⟨last, built, hbuild, hlast, hbuilt⟩ :=
    hfirst.pushFrom name hissued 0 workload.len
  exact ⟨last, built, hbuild, hlast, by rwa [Nat.add_comm] at hbuilt⟩

/-- Where releases are ignored, an invocation succeeds, and the handles it was issued stay live. -/
theorem Piles.run (name : String) (hbounded : books.Bounded) (hlive : books.AllLive)
    (workload : Workload) :
    ∃ after, workload.run (Adapter.counting name { ignoreReleases := true }) books =
      (.ok (), after) ∧ books.Piles after (workload.len + 1) := by
  obtain ⟨last, built, hbuild, hlast, hbuilt⟩ := Piles.build name hbounded hlive workload
  obtain ⟨after, hretire, -, hafter⟩ := hbuilt.release name hlast
  exact ⟨after, by simp only [Workload.run, hbuild, hretire], hafter⟩

/-- The same for an invocation that reads the last version. -/
theorem Piles.materialize (name : String) (hbounded : books.Bounded)
    (hlive : books.AllLive) (workload : Workload) :
    ∃ elements after, workload.materialize (Adapter.counting name { ignoreReleases := true })
      books = (.ok elements, after) ∧ books.Piles after (workload.len + 1) := by
  obtain ⟨last, built, hbuild, hlast, hbuilt⟩ := Piles.build name hbounded hlive workload
  obtain ⟨after, hretire, -, hafter⟩ := hbuilt.release name hlast
  have hread := read_of_live name { ignoreReleases := true }
    (hbuilt.allLive.contains_live hlast)
  exact ⟨last.version.reverse, after,
    by simp only [Workload.materialize, hbuild, hread, hretire], hafter⟩

end HandleCounts

end PushBench
