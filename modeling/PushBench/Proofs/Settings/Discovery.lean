import Mathlib.Data.List.Infix
import PushBench.Proofs.Files.Writing
import PushBench.Settings.Discovery

/-!
# The nearest configuration

A search for a configuration goes up from a directory, and the first file of the standard name ends
it. So it comes to the configuration of the deepest directory that has such a file, or to the reason
why that file cannot be used; nothing above that file or beside the way up has a say in it.
-/

namespace PushBench

/-- Files answer alike when they are asked for a path. -/
structure FileView.AgreesAt (other files : FileView) (path : Path) : Prop where
  isFile_eq : other.isFile path = files.isFile path
  readText_eq : other.readText path = files.readText path

namespace Config

variable {files other : FileView} {start place path : Path} {name : String}
  {result answer : Except ConfigFileError (Option (Path × Config))}

/-! ## Places on the way up -/

/-- A search that goes up from a directory comes to a place: it lies on the way up, and no directory
on the way to it has a file of the standard name. -/
structure IsReached (files : FileView) (start place : Path) : Prop where
  above : place <+: start
  passed {deeper : Path} : deeper <+: start → place.length < deeper.length →
    files.isFile (deeper ++ [fileName]) = false

/-- The deepest directory on the way up that has a file of the standard name. -/
structure IsNearest (files : FileView) (start place : Path) : Prop
    extends IsReached files start place where
  isFile : files.isFile (place ++ [fileName]) = true

theorem isReached_start (files : FileView) (start : Path) : IsReached files start start where
  above := List.prefix_refl start
  passed habove hdeeper := absurd habove.length_le (Nat.not_le_of_lt hdeeper)

/-- From a directory without the file the search goes on as it would from the directory above. -/
theorem IsReached.concat (h : IsReached files start place)
    (hmissing : files.isFile (start ++ [name] ++ [fileName]) = false) :
    IsReached files (start ++ [name]) place where
  above := h.above.trans (List.prefix_append start [name])
  passed habove hdeeper := by
    rcases List.prefix_concat_iff.mp habove with rfl | habove
    · exact hmissing
    · exact h.passed habove hdeeper

/-- Whatever lies on the way to a place that is reached is reached. -/
theorem IsReached.of_deeper {deeper : Path} (h : IsReached files start place)
    (habove : deeper <+: start) (hdeeper : place.length < deeper.length) :
    IsReached files start deeper where
  above := habove
  passed hprefix hlonger := h.passed hprefix (Nat.lt_trans hdeeper hlonger)

theorem IsNearest.length_le {further : Path} (h : IsNearest files start place)
    (hfurther : IsNearest files start further) : further.length ≤ place.length := by
  apply Nat.le_of_not_lt
  intro hdeeper
  have hmissing := h.passed hfurther.above hdeeper
  rw [hfurther.isFile] at hmissing
  cases hmissing

theorem IsNearest.unique {further : Path} (h : IsNearest files start place)
    (hfurther : IsNearest files start further) : place = further :=
  have hprefix := List.prefix_of_prefix_length_le h.above hfurther.above (hfurther.length_le h)
  hprefix.eq_of_length (Nat.le_antisymm (hfurther.length_le h) (h.length_le hfurther))

/-! ## What a search comes to -/

/-- What a file comes to that was found: it cannot be read, it is no configuration, or it is one. -/
inductive Decides (files : FileView) (path : Path) :
    Except ConfigFileError (Option (Path × Config)) → Prop where
  | unreadable {reason : FileError} (hread : files.readText path = .error reason) :
    Decides files path (.error (.unreadable path.text reason))
  | malformed {text : String} (hread : files.readText path = .ok text)
    (hparse : parse text = none) : Decides files path (.error (.malformed path.text))
  | found {text : String} {config : Config} (hread : files.readText path = .ok text)
    (hparse : parse text = some config) : Decides files path (.ok (some (path, config)))

theorem decides_load (files : FileView) (path : Path) :
    Decides files path ((load files path.text path).map fun config ↦ some (path, config)) := by
  unfold load
  cases hread : files.readText path with
  | error reason => exact .unreadable hread
  | ok text =>
    cases hparse : parse text with
    | none =>
      simp only [hparse]
      exact .malformed hread hparse
    | some config =>
      simp only [hparse]
      exact .found hread hparse

theorem Decides.eq_load (h : Decides files path result) :
    result = (load files path.text path).map fun config ↦ some (path, config) := by
  cases h with
  | unreadable hread => simp only [load, hread, Except.map]
  | malformed hread hparse => simp only [load, hread, hparse, Except.map]
  | found hread hparse => simp only [load, hread, hparse, Except.map]

/-- A file that decides does not leave the search without a result. -/
theorem Decides.ne_none (h : Decides files path result) : result ≠ .ok none := by
  cases h <;> nofun

theorem Decides.of_readText_eq (h : Decides files path result)
    (hread : other.readText path = files.readText path) : Decides other path result := by
  cases h with
  | unreadable hreason => exact .unreadable (hread.trans hreason)
  | malformed htext hparse => exact .malformed (hread.trans htext) hparse
  | found htext hparse => exact .found (hread.trans htext) hparse

/-- What a search that goes up from a directory comes to. -/
inductive ComesTo (files : FileView) (start : Path) :
    Except ConfigFileError (Option (Path × Config)) → Prop where
  | nowhere (hmissing : ∀ place, place <+: start → files.isFile (place ++ [fileName]) = false) :
    ComesTo files start (.ok none)
  | nearest {place : Path} {result : Except ConfigFileError (Option (Path × Config))}
    (hnearest : IsNearest files start place)
    (hdecides : Decides files (place ++ [fileName]) result) : ComesTo files start result

theorem ComesTo.concat (h : ComesTo files start result)
    (hmissing : files.isFile (start ++ [name] ++ [fileName]) = false) :
    ComesTo files (start ++ [name]) result := by
  cases h with
  | nowhere hnowhere =>
    refine .nowhere fun place habove ↦ ?_
    rcases List.prefix_concat_iff.mp habove with rfl | habove
    · exact hmissing
    · exact hnowhere place habove
  | nearest hnearest hdecides =>
    exact .nearest ⟨hnearest.toIsReached.concat hmissing, hnearest.isFile⟩ hdecides

theorem ComesTo.unique (h : ComesTo files start result) (hanswer : ComesTo files start answer) :
    result = answer := by
  cases h with
  | nowhere hmissing =>
    cases hanswer with
    | nowhere => rfl
    | nearest hnearest _ => exact absurd (hmissing _ hnearest.above) (by simp [hnearest.isFile])
  | nearest hnearest hdecides =>
    cases hanswer with
    | nowhere hmissing => exact absurd (hmissing _ hnearest.above) (by simp [hnearest.isFile])
    | nearest hfurther hanswered =>
      obtain rfl := hnearest.unique hfurther
      rw [hdecides.eq_load, hanswered.eq_load]

/-- Files that answer alike at every place that is reached let a search come to the same. -/
theorem ComesTo.of_agree (h : ComesTo files start result)
    (hagree : ∀ place, IsReached files start place →
      other.AgreesAt files (place ++ [fileName])) : ComesTo other start result := by
  cases h with
  | nowhere hmissing =>
    refine .nowhere fun place habove ↦ ?_
    have hreached : IsReached files start place := ⟨habove, fun hprefix _ ↦ hmissing _ hprefix⟩
    rw [(hagree place hreached).isFile_eq]
    exact hmissing place habove
  | @nearest place _ hnearest hdecides =>
    have hreached := hnearest.toIsReached
    have hsame := hagree place hreached
    refine .nearest ⟨⟨hreached.above, fun habove hdeeper ↦ ?_⟩, ?_⟩
      (hdecides.of_readText_eq hsame.readText_eq)
    · rw [(hagree _ (hreached.of_deeper habove hdeeper)).isFile_eq]
      exact hreached.passed habove hdeeper
    · rw [hsame.isFile_eq]
      exact hnearest.isFile

/-! ## The search -/

theorem comesTo_discoverUp (files : FileView) (names : List String) :
    ComesTo files names.reverse (discoverUp files names) := by
  induction names with
  | nil =>
    rw [discoverUp]
    split
    next hfile => exact .nearest ⟨isReached_start files [], hfile⟩ (decides_load files _)
    next hfile =>
      refine .nowhere fun place habove ↦ ?_
      rw [List.prefix_nil.mp habove]
      exact eq_false_of_ne_true hfile
  | cons name above ih =>
    simp only [discoverUp, List.reverse_cons]
    split
    next hfile => exact .nearest ⟨isReached_start files _, hfile⟩ (decides_load files _)
    next hfile => exact ih.concat (eq_false_of_ne_true hfile)

theorem comesTo_discover (files : FileView) (directory : Path) :
    ComesTo files directory.steps (discover files directory) := by
  have h := comesTo_discoverUp files directory.steps.reverse
  rwa [List.reverse_reverse] at h

theorem discover_eq_iff {directory : Path} :
    discover files directory = result ↔ ComesTo files directory.steps result := by
  constructor
  · rintro rfl
    exact comesTo_discover files directory
  · exact (comesTo_discover files directory).unique

theorem discover_eq_none_iff {directory : Path} :
    discover files directory = .ok none ↔
      ∀ place, place <+: directory.steps → files.isFile (place ++ [fileName]) = false := by
  rw [discover_eq_iff]
  constructor
  · intro h
    generalize hnone : (Except.ok none : Except ConfigFileError (Option (Path × Config))) = result
      at h
    cases h with
    | nowhere hmissing => exact hmissing
    | nearest _ hdecides => exact absurd hnone.symm hdecides.ne_none
  · exact .nowhere

theorem discover_eq_of_agree {directory : Path}
    (hagree : ∀ place, IsReached files directory.steps place →
      other.AgreesAt files (place ++ [fileName])) :
    discover other directory = discover files directory :=
  discover_eq_iff.mpr ((comesTo_discover files directory).of_agree hagree)

/-- In a tree it does not matter what is put into a place beside the way up, or above the nearest
file, for a search from a directory that is named without dots. -/
theorem discover_set {tree : FileTree} {directory target : Path} (entry : FileEntry)
    (hplain : ∀ name ∈ directory, name ≠ "" ∧ name ≠ "." ∧ name ≠ "..")
    (hbeside : ¬target <+: directory)
    (hunasked : ∀ place, IsReached tree.view directory place → place ++ [fileName] ≠ target) :
    discover (tree.set target entry) directory = discover tree directory := by
  have hsteps : directory.steps = directory := by
    rw [Path.steps, List.filter_eq_self]
    intro name hmem
    obtain ⟨hempty, hdot, -⟩ := hplain name hmem
    exact decide_eq_true ⟨hempty, hdot⟩
  apply discover_eq_of_agree
  rw [hsteps]
  intro place hreached
  have hnames : ∀ name ∈ place ++ [fileName], name ≠ "" ∧ name ≠ "." ∧ name ≠ ".." := by
    intro name hmem
    rcases List.mem_append.mp hmem with hmem | hmem
    · exact hplain name (hreached.above.subset hmem)
    · rw [List.mem_singleton.mp hmem]
      decide
  have hpassed : ∀ passed, passed <+: place ++ [fileName] → [] ++ passed ≠ target := by
    intro passed hpassed
    rw [List.nil_append]
    rcases List.prefix_concat_iff.mp hpassed with rfl | habove
    · exact hunasked place hreached
    · rintro rfl
      exact hbeside (habove.trans hreached.above)
  have hresolve : (tree.set target entry).resolve (place ++ [fileName]) =
      tree.resolve (place ++ [fileName]) :=
    FileTree.follow_set_of_ne entry hnames hpassed
  constructor
  · simp only [FileTree.view, FileTree.isFile, hresolve]
  · simp only [FileTree.view, FileTree.readText, FileTree.read, hresolve]

/-- A search from a directory ends, whatever the files are. It comes to what the file of the
standard name comes to in the deepest directory on the way up that has one, even if that file cannot
be used, and to nothing exactly if there is no such file. No file has a say but those of the
standard name in the directories up to there. -/
theorem discover_finds_nearest (files : FileView) (directory : Path) :
    (∀ result, discover files directory = result ↔ ComesTo files directory.steps result) ∧
    (discover files directory = .ok none ↔
      ∀ place, place <+: directory.steps → files.isFile (place ++ [fileName]) = false) ∧
    ∀ other : FileView,
      (∀ place, IsReached files directory.steps place →
        other.AgreesAt files (place ++ [fileName])) →
      discover other directory = discover files directory := by
  refine ⟨fun result ↦ ?_, ?_, fun other hagree ↦ ?_⟩
  · exact discover_eq_iff
  · exact discover_eq_none_iff
  · exact discover_eq_of_agree hagree

/-- A directory of that name is passed over, and the file above it decides although it is no text.
The sound file at the root may as well be gone. -/
theorem discover_finds_nearest_unreadable :
    let bare : FileTree := ⟨[(["a"], .directory), (["a", "b"], .directory),
      (["a", "b", fileName], .directory), (["a", fileName], .file ⟨#[255]⟩)]⟩
    let tree : FileTree := bare.set [fileName] (.file ⟨#[]⟩)
    let directory : Path := ["a", ".", "b", "c", ""]
    discover tree directory = .error (.unreadable "/a/pvbench.toml" .notText) ∧
      discover bare directory = discover tree directory := by
  intro bare tree directory
  obtain ⟨hcomes, -, hdepends⟩ := discover_finds_nearest tree directory
  have hsteps : directory.steps = ["a", "b", "c"] := rfl
  have hmissing : ∀ deeper ∈ List.inits ["a", "b", "c"], 1 < deeper.length →
      tree.view.isFile (deeper ++ [fileName]) = false := by decide
  have hnearest : IsNearest tree directory.steps ["a"] := by
    refine ⟨⟨⟨["b", "c"], rfl⟩, fun habove hdeeper ↦ ?_⟩, rfl⟩
    exact hmissing _ ((List.mem_inits _ _).mpr (hsteps ▸ habove)) hdeeper
  refine ⟨(hcomes _).mpr (.nearest hnearest (.unreadable rfl)), ?_⟩
  apply hdepends
  intro place hreached
  have hplace : place ∈ List.inits ["a", "b", "c"] :=
    (List.mem_inits _ _).mpr (hsteps ▸ hreached.above)
  simp only [List.inits, List.map, List.mem_cons, List.not_mem_nil, or_false] at hplace
  rcases hplace with rfl | rfl | rfl | rfl
  · -- the search has ended before it comes to the root
    have hpassed := hreached.passed hnearest.above (by decide)
    rw [hnearest.isFile] at hpassed
    cases hpassed
  · exact ⟨rfl, rfl⟩
  · exact ⟨rfl, rfl⟩
  · exact ⟨rfl, rfl⟩

end Config

end PushBench
