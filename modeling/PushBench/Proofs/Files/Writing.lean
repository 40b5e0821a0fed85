import Mathlib.Tactic.SplitIfs
import PushBench.Files.Tree

/-!
# Writing files

A file that was written is read back under the same path: what is put into a place where no
directory was does not change where the path to it leads.
-/

namespace PushBench.FileTree

variable {tree : FileTree} {path place target : Path} {entry : FileEntry}

/-! ## Entries -/

theorem find?_set_self (htarget : target ≠ []) :
    (tree.set target entry).find? target = some entry := by
  rw [find?, if_neg (by simpa using htarget), set, List.lookup_cons_self]

theorem find?_set_of_ne (hpath : path ≠ target) :
    (tree.set target entry).find? path = tree.find? path := by
  have hbeq : (path == target) = false := beq_eq_false_iff_ne.mpr hpath
  have hfilter (entries : List (Path × FileEntry)) :
      (entries.filter fun other ↦ other.1 ≠ target).lookup path = entries.lookup path := by
    induction entries with
    | nil => rfl
    | cons first rest ih =>
      rcases first with ⟨name, kept⟩
      by_cases hname : name = target
      · rw [List.filter_cons_of_neg (by simpa using hname), ih, List.lookup_cons, hname, hbeq]
      · rw [List.filter_cons_of_pos (by simpa using hname), List.lookup_cons, List.lookup_cons, ih]
  simp only [find?, set, List.lookup_cons, hbeq, hfilter]

/-! ## Paths -/

/-- A path to a directory does not lead through a place where no directory is, so whatever is put
there, it leads to the same directory. -/
theorem follow_set (entry : FileEntry) (htarget : tree.find? target ≠ some .directory)
    {start : Path} {first : FileEntry}
    (hfollow : tree.follow start first path = .ok (place, .directory)) :
    (tree.set target entry).follow start first path = .ok (place, .directory) := by
  induction path generalizing start first with
  | nil => exact hfollow
  | cons name rest ih =>
    cases first with
    | file content => cases hfollow
    | directory =>
      rw [follow] at hfollow ⊢
      split_ifs at hfollow ⊢ with hstay hup
      · exact ih hfollow
      · exact ih hfollow
      · cases hfound : tree.find? (start ++ [name]) with
        | none => simp [hfound] at hfollow
        | some found =>
          rw [hfound] at hfollow
          -- only a directory leads on to a directory
          obtain rfl : found = .directory := by
            cases found with
            | directory => rfl
            | file content => cases rest <;> cases hfollow
          have hother : start ++ [name] ≠ target := fun heq ↦ htarget (by rw [← heq, hfound])
          rw [find?_set_of_ne hother, hfound]
          exact ih hfollow

/-- A path leads on from the directory that its first part leads to. -/
theorem follow_append {start : Path} {first : FileEntry} {rest : Path}
    (hfollow : tree.follow start first path = .ok (place, .directory)) :
    tree.follow start first (path ++ rest) = tree.follow place .directory rest := by
  induction path generalizing start first with
  | nil =>
    cases hfollow
    rfl
  | cons name names ih =>
    cases first with
    | file content => cases hfollow
    | directory =>
      rw [List.cons_append]
      rw [follow] at hfollow ⊢
      split_ifs at hfollow ⊢ with hstay hup
      · exact ih hfollow
      · exact ih hfollow
      · split at hfollow
        next found hfound => exact ih hfollow
        next => cases hfollow

/-- Whatever is put into a place that a path without dots does not pass, the path leads where it
led before. -/
theorem follow_set_of_ne (entry : FileEntry) {start : Path} {first : FileEntry}
    (hplain : ∀ name ∈ path, name ≠ "" ∧ name ≠ "." ∧ name ≠ "..")
    (hpassed : ∀ passed, passed <+: path → start ++ passed ≠ target) :
    (tree.set target entry).follow start first path = tree.follow start first path := by
  induction path generalizing start first with
  | nil => rfl
  | cons name rest ih =>
    cases first with
    | file content => rfl
    | directory =>
      obtain ⟨⟨hempty, hdot, hup⟩, hrest⟩ := List.forall_mem_cons.mp hplain
      have hnext : start ++ [name] ≠ target := hpassed [name] ⟨rest, rfl⟩
      have hlater : ∀ passed, passed <+: rest → start ++ [name] ++ passed ≠ target := by
        intro passed hprefix
        rw [List.append_assoc]
        exact hpassed (name :: passed) (List.cons_prefix_cons.mpr ⟨rfl, hprefix⟩)
      have hstay : ¬(name = "" ∨ name = ".") := not_or.mpr ⟨hempty, hdot⟩
      rw [follow, follow, if_neg hstay, if_neg hstay, if_neg hup, if_neg hup,
        find?_set_of_ne hnext]
      cases tree.find? (start ++ [name]) with
      | none => rfl
      | some found => exact ih hrest hlater

theorem splitLast_eq {directory : Path} {name : String}
    (hsplit : splitLast path = (directory, name)) (hname : name ≠ "") :
    path = directory ++ [name] := by
  unfold splitLast at hsplit
  split at hsplit
  next => exact absurd (Prod.mk.inj hsplit).2.symm hname
  next last rest _ hreverse =>
    obtain ⟨rfl, rfl⟩ := Prod.mk.inj hsplit
    rw [← List.reverse_reverse path, hreverse, List.reverse_cons]
  next => exact absurd (Prod.mk.inj hsplit).2.symm hname

/-! ## Writing and reading -/

/-- A file that was written is read back. -/
theorem read_of_write {text : String} {after : FileTree}
    (hwrite : tree.write path text = .ok after) : after.read path = .ok text.toUTF8 := by
  rcases hsplit : splitLast path with ⟨directory, name⟩
  simp only [write, hsplit] at hwrite
  split at hwrite
  next place hresolve =>
    unfold writeIn at hwrite
    split at hwrite
    next => cases hwrite
    next hname =>
      split at hwrite
      next => cases hwrite
      next hfree =>
        obtain rfl := Except.ok.inj hwrite
        obtain ⟨hempty, hdot, hup⟩ : name ≠ "" ∧ name ≠ "." ∧ name ≠ ".." := by
          simpa using hname
        have hthere := follow_set (.file text.toUTF8) hfree hresolve
        rw [read, resolve, splitLast_eq hsplit hempty, follow_append hthere, follow,
          if_neg (by simp [hempty, hdot]), if_neg hup, find?_set_self (by simp)]
        rfl
  next => cases hwrite
  next => cases hwrite

end PushBench.FileTree
