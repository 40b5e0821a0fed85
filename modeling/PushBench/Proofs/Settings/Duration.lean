import PushBench.Proofs.Number.Literal
import PushBench.Proofs.Number.Rounding
import PushBench.Proofs.Text.Blank
import PushBench.Settings.Duration

/-!
# What texts are durations

A text is a duration if a plain number stands before its first alphabetic character, one whose
nearest double is finite and not below zero, and the name of a unit from there on. The duration is
the product of doubles in whole nanoseconds. White space and letter case do not matter.
-/

namespace PushBench

/-! ## Units -/

theorem lowercase_eq_nil_iff {text : List Char} : lowercase text = [] ↔ text = [] := by
  cases text with
  | nil => simp [lowercase, lowercaseAfter]
  | cons c text =>
    simp only [lowercase, lowercaseAfter, List.append_eq_nil_iff, reduceCtorEq, iff_false]
    rintro ⟨hform, -⟩
    split at hform
    · cases hform
    · split at hform <;> cases hform

namespace TimeUnit

/-- The names of a unit in lower case. -/
def names : TimeUnit → List String
  | .nanosecond => ["ns"]
  | .microsecond => ["us", "\u00b5s"]
  | .millisecond => ["ms"]
  | .second => ["s"]
  | .minute => ["m", "min"]

variable {unit : TimeUnit} {name : List Char}

theorem ofName?_eq_some_iff :
    ofName? name = some unit ↔ String.ofList (lowercase name) ∈ unit.names := by
  unfold ofName?
  generalize String.ofList (lowercase name) = form
  constructor
  · intro h
    split at h <;> cases h <;> simp [names]
  · intro h
    cases unit <;> simp only [names, List.mem_cons, List.not_mem_nil, or_false] at h
    case microsecond | minute => rcases h with rfl | rfl <;> rfl
    all_goals subst h; rfl

theorem nanoseconds_pos (unit : TimeUnit) : 0 < unit.nanoseconds := by
  cases unit <;> decide

theorem nanoseconds_lt (unit : TimeUnit) : unit.nanoseconds < 2 ^ 53 := by
  cases unit <;> decide

end TimeUnit

namespace Duration

open Binary64

/-- A unit is meant by its names in any letter case, and seconds also by nothing. -/
inductive Means : List Char → TimeUnit → Prop
  | nothing : Means [] .second
  | name {text : List Char} {unit : TimeUnit} (h : String.ofList (lowercase text) ∈ unit.names) :
    Means text unit

theorem unit?_eq_some_iff {text : List Char} {unit : TimeUnit} :
    unit? text = some unit ↔ Means text unit := by
  unfold unit?
  split
  next hempty =>
    obtain rfl := List.isEmpty_iff.mp hempty
    constructor
    · rintro ⟨⟩
      exact .nothing
    · rintro (_ | h)
      · rfl
      · cases unit <;> exact absurd h (by decide)
  next hsome =>
    rw [TimeUnit.ofName?_eq_some_iff]
    constructor
    · exact .name
    · rintro (_ | h)
      · exact absurd rfl hsome
      · exact h

theorem unit?_congr {text other : List Char} (h : lowercase other = lowercase text) :
    unit? other = unit? text := by
  have hempty : other = [] ↔ text = [] := by
    rw [← lowercase_eq_nil_iff, h, lowercase_eq_nil_iff]
  simp only [unit?, List.isEmpty_iff, hempty, TimeUnit.ofName?, h]

/-! ## Splits -/

/-- A text is split before its first alphabetic character. -/
structure IsSplit (text number unit : List Char) : Prop where
  append : number ++ unit = text
  number : ∀ c ∈ number, isAlphabetic c = false
  unit : ∀ c ∈ unit.head?, isAlphabetic c = true

variable {text number unit : List Char}

theorem isSplit_parts (text : List Char) : IsSplit text (numberPart text) (unitPart text) where
  append := List.takeWhile_append_dropWhile
  number c hc := by simpa using List.all_eq_true.mp List.all_takeWhile c hc
  unit c hc := by
    have hhead := List.head?_dropWhile_not (!isAlphabetic ·) text
    rw [unitPart] at hc
    rw [Option.mem_def.mp hc] at hhead
    simpa using hhead

theorem IsSplit.numberPart_eq (h : IsSplit text number unit) : numberPart text = number := by
  have hnumber : ∀ c ∈ number, (!isAlphabetic c) = true := fun c hc ↦ by rw [h.number c hc]; rfl
  rw [numberPart, ← h.append, List.takeWhile_append_of_pos hnumber]
  cases unit with
  | nil => exact List.append_nil number
  | cons c unit =>
    rw [List.takeWhile_cons_of_neg (by rw [h.unit c rfl]; exact Bool.false_ne_true),
      List.append_nil]

theorem IsSplit.unitPart_eq (h : IsSplit text number unit) : unitPart text = unit := by
  have hsplit := (isSplit_parts text).append
  rw [h.numberPart_eq] at hsplit
  exact List.append_cancel_left (hsplit.trans h.append.symm)

/-! ## Numbers of units -/

/-- A product in whole nanoseconds: rounded down, and the greatest count if it is too large. -/
def truncated (product : Float) : Nat :=
  if product.isFinite then min (2 ^ 64 - 1) ⌊value product⌋₊ else 2 ^ 64 - 1

theorem isNearest_product {x : Float} (hfinite : x.isFinite = true) (hnonneg : 0 ≤ value x)
    (unit : TimeUnit) :
    IsNearest (value x * unit.nanoseconds) (x * Float.ofNat unit.nanoseconds) := by
  have hnearest := isNearest_mul hfinite hnonneg
    (isPositive_ofNat unit.nanoseconds_pos (unit.nanoseconds_lt.trans (by decide)))
  rwa [value_ofNat unit.nanoseconds_lt] at hnearest

theorem toNanoseconds_eq {x : Float} (hfinite : x.isFinite = true) (hnonneg : 0 ≤ value x)
    (unit : TimeUnit) :
    toNanoseconds x unit = truncated (x * Float.ofNat unit.nanoseconds) := by
  have hproduct := isNearest_product hfinite hnonneg unit
  have hnumber : 0 ≤ value x * unit.nanoseconds := mul_nonneg hnonneg (Nat.cast_nonneg _)
  unfold toNanoseconds truncated
  generalize x * Float.ofNat unit.nanoseconds = product at *
  split
  next hfinite => exact floor_eq hfinite (hproduct.value_nonneg hnumber hfinite)
  next hinfinite => exact hproduct.floor_eq_countLimit hnumber (by simpa using hinfinite)

/-- Products with the same value are the same in whole nanoseconds. -/
theorem truncated_congr {number : ℚ} {x y : Float} (hx : IsNearest number x)
    (hy : IsNearest number y) : truncated x = truncated y := by
  have hfinite : x.isFinite = y.isFinite := by
    rw [Bool.eq_iff_iff, hx.isFinite_iff, hy.isFinite_iff]
  unfold truncated
  rw [hfinite]
  split
  next hy' => rw [hx.value_eq hy (hfinite.trans hy')]
  next => rfl

/-! ## Spelled durations -/

/-- A text spells a number of nanoseconds. Its number is a plain one whose nearest double is finite
and not below zero, and the nanoseconds are the product of that double with the unit's. -/
inductive Spells (text : List Char) : Nat → Prop
  | intro {numberText unitText : List Char} {number : ℚ} {unit : TimeUnit} {x product : Float}
    (hsplit : IsSplit (trim text) numberText unitText)
    (hnumber : IsNumeral (trim numberText) number) (hunit : Means unitText unit)
    (hx : IsNearest number x) (hfinite : x.isFinite = true) (hnonneg : 0 ≤ value x)
    (hproduct : IsNearest (value x * unit.nanoseconds) product) :
    Spells text (truncated product)

theorem number?_eq_some_iff {x : Float} :
    number? text = some x ↔ readPlain (trim text) = some x ∧ x.isFinite = true ∧ 0 ≤ value x := by
  unfold number?
  split
  next y hread =>
    rw [hread]
    simp only [Bool.and_eq_true, Bool.not_eq_true', decide_eq_false_iff_not, Option.some.injEq]
    split
    next hvalid =>
      rw [lt_zero_iff hvalid.1, not_lt] at hvalid
      constructor
      · rintro ⟨⟩
        exact ⟨rfl, hvalid⟩
      · rintro ⟨rfl, -⟩
        rfl
    next hinvalid =>
      constructor
      · nofun
      · rintro ⟨rfl, hfinite, hnonneg⟩
        exact absurd ⟨hfinite, by rwa [lt_zero_iff hfinite, not_lt]⟩ hinvalid
  next hread =>
    rw [hread]
    exact ⟨nofun, fun h ↦ nomatch h.1⟩

theorem read_eq_ok_iff {nanoseconds : Nat} :
    read text = .ok nanoseconds ↔ Spells text nanoseconds := by
  unfold read
  dsimp only
  constructor
  · intro h
    split at h
    next x unit hnumber hunit =>
      cases h
      obtain ⟨hread, hfinite, hnonneg⟩ := number?_eq_some_iff.mp hnumber
      obtain ⟨number, hnumeral, hnearest⟩ := isNumeral_of_readPlain hread
      rw [toNanoseconds_eq hfinite hnonneg]
      exact .intro (isSplit_parts _) hnumeral (unit?_eq_some_iff.mp hunit) hnearest hfinite hnonneg
        (isNearest_product hfinite hnonneg unit)
    next => cases h
  · intro h
    cases h with
    | @intro numberText unitText number unit x product hsplit hnumber hunit hx hfinite hnonneg
        hproduct =>
      -- another double may be read than the one of the spelling, but one of the same value
      obtain ⟨y, hread, hy⟩ := readPlain_of_isNumeral hnumber
      have hvalue := hx.value_eq hy hfinite
      have hfinite' := hy.isFinite_iff.mpr (hx.isFinite_iff.mp hfinite)
      rw [hvalue] at hnonneg hproduct
      rw [hsplit.numberPart_eq, hsplit.unitPart_eq,
        number?_eq_some_iff.mpr ⟨hread, hfinite', hnonneg⟩, unit?_eq_some_iff.mpr hunit]
      dsimp only
      rw [toNanoseconds_eq hfinite' hnonneg,
        truncated_congr (isNearest_product hfinite' hnonneg unit) hproduct]

theorem read_eq_error_iff {error : InvalidDuration} :
    read text = .error error ↔
      error = ⟨trim text⟩ ∧ ∀ nanoseconds, ¬Spells text nanoseconds := by
  have herror {other : InvalidDuration} (h : read text = .error other) : other = ⟨trim text⟩ := by
    unfold read at h
    dsimp only at h
    split at h <;> cases h
    rfl
  cases hread : read text with
  | ok nanoseconds =>
    exact ⟨nofun, fun h ↦ absurd (read_eq_ok_iff.mp hread) (h.2 nanoseconds)⟩
  | error other =>
    obtain rfl := herror hread
    rw [Except.error.injEq]
    refine ⟨fun h ↦ ⟨h.symm, fun nanoseconds hspells ↦ ?_⟩, fun h ↦ h.1.symm⟩
    rw [read_eq_ok_iff.mpr hspells] at hread
    cases hread

/-! ## White space and letter case -/

theorem read_append_append {before after : List Char} (hbefore : AllBlank before)
    (hafter : AllBlank after) : read (before ++ text ++ after) = read text := by
  unfold read
  rw [trim_append_append hbefore hafter]

theorem toOption_read_congr {other number' unit' : List Char}
    (h : IsSplit (trim text) number unit) (h' : IsSplit (trim other) number' unit')
    (hnumber : trim number' = trim number) (hunit : lowercase unit' = lowercase unit) :
    (read other).toOption = (read text).toOption := by
  have hnumber? : number? number' = number? number := by unfold number?; rw [hnumber]
  unfold read
  dsimp only
  rw [h.numberPart_eq, h.unitPart_eq, h'.numberPart_eq, h'.unitPart_eq, hnumber?,
    unit?_congr hunit]
  split <;> rfl

theorem isSplit_trim {c : Char} (hnumber : ∀ c ∈ number, isAlphabetic c = false)
    (hc : isAlphabetic c = true) :
    IsSplit (trim (number ++ c :: unit)) (trimStart number) (trimEnd (c :: unit)) := by
  have hblank : isBlank c = false := by
    by_contra hblank
    rw [isAlphabetic_of_isBlank (by simpa using hblank)] at hc
    cases hc
  refine ⟨(trim_append_cons hblank).symm, fun d hd ↦ ?_, fun d hd ↦ ?_⟩
  · exact hnumber d ((List.dropWhile_sublist _).subset hd)
  · rw [head?_trimEnd_cons hblank] at hd
    cases hd
    exact hc

/-- White space between the number and the unit does not matter. -/
theorem toOption_read_append {between : List Char} (h : IsSplit text number unit)
    (hbetween : AllBlank between) :
    (read (number ++ between ++ unit)).toOption = (read text).toOption := by
  obtain ⟨rfl, hnumber, hunit⟩ := h
  cases unit with
  | nil =>
    have hread := @read_append_append number [] between allBlank_nil hbetween
    rw [List.nil_append] at hread
    rw [List.append_nil, List.append_nil, hread]
  | cons c unit =>
    have halphabetic : isAlphabetic c = true := hunit c rfl
    have hspaced : ∀ d ∈ number ++ between, isAlphabetic d = false := fun d hd ↦
      (List.mem_append.mp hd).elim (hnumber d) fun hd ↦ isAlphabetic_of_isBlank (hbetween d hd)
    refine toOption_read_congr (isSplit_trim hnumber halphabetic)
      (isSplit_trim hspaced halphabetic) ?_ rfl
    have htrim := @trim_append_append number [] between allBlank_nil hbetween
    rw [trim_trimStart, trim_trimStart, ← htrim, List.nil_append]

/-- A text is read exactly if it spells a duration. White space around the text and between number
and unit does not matter, and neither does the letter case of the unit. -/
theorem reads_spelled_durations (text : List Char) :
    (∀ nanoseconds, read text = .ok nanoseconds ↔ Spells text nanoseconds) ∧
      (∀ error, read text = .error error ↔
        error = ⟨trim text⟩ ∧ ∀ nanoseconds, ¬Spells text nanoseconds) ∧
      (∀ before after, AllBlank before → AllBlank after →
        read (before ++ text ++ after) = read text) ∧
      (∀ number between unit, IsSplit text number unit → AllBlank between →
        (read (number ++ between ++ unit)).toOption = (read text).toOption) ∧
      ∀ other number unit number' unit', IsSplit (trim text) number unit →
        IsSplit (trim other) number' unit' → trim number' = trim number →
          lowercase unit' = lowercase unit → (read other).toOption = (read text).toOption :=
  ⟨fun _ ↦ read_eq_ok_iff, fun _ ↦ read_eq_error_iff, fun _ _ ↦ read_append_append,
    fun _ _ _ ↦ toOption_read_append, fun _ _ _ _ _ ↦ toOption_read_congr⟩

/-- One and a half milliseconds, with white space of two kinds and in either letter case. -/
theorem reads_spelled_durations_milliseconds :
    Spells "1.5 MS".toList 1500000 ∧ (∀ nanoseconds, ¬Spells "1e3".toList nanoseconds) ∧
      read "  1.5 MS\u00a0".toList = .ok 1500000 ∧
      (read "1.5 \u00a0MS".toList).toOption = some 1500000 ∧
      (read "1.5ms".toList).toOption = some 1500000 := by
  have hread : read "1.5 MS".toList = .ok 1500000 := by decide +kernel
  have hscientific : read "1e3".toList = .error ⟨"1e3".toList⟩ := by decide +kernel
  have hspace : AllBlank [' ', ' '] := List.all_eq_true.mp (by decide)
  have hnoBreak : AllBlank ['\u00a0'] := List.all_eq_true.mp (by decide)
  obtain ⟨hok, -, hends, hbetween, hcase⟩ := reads_spelled_durations "1.5 MS".toList
  refine ⟨(hok 1500000).mp hread,
    (((reads_spelled_durations "1e3".toList).2.1 _).mp hscientific).2, ?_, ?_, ?_⟩
  · exact (hends [' ', ' '] ['\u00a0'] hspace hnoBreak).trans hread
  · have hinserted := hbetween _ ['\u00a0'] _ (isSplit_parts "1.5 MS".toList) hnoBreak
    rw [hread] at hinserted
    exact hinserted
  · have hsame := hcase "1.5ms".toList _ _ _ _ (isSplit_parts _) (isSplit_parts _)
      (by decide +kernel) (by decide +kernel)
    rw [hread] at hsame
    exact hsame

end Duration

end PushBench
