import PushBench.Proofs.Number.Order
import PushBench.Proofs.Number.Places
import PushBench.Report.Console

/-!
# Thousands

The whole part of a displayed rate falls into groups of three digits from the right, with commas
between the groups. Without its commas the rate is a decimal text with a fixed count of places.
-/

namespace PushBench

variable {c : Char} {text first : List Char} {groups : List (List Char)}

/-! ## Groups -/

/-- A text falls into groups of three characters from the right. What is left over in front is a
first group of one to three characters. -/
structure FallsInto (text first : List Char) (groups : List (List Char)) : Prop where
  append_flatten : first ++ groups.flatten = text
  one_le_length : 1 ≤ first.length
  length_le : first.length ≤ 3
  length_eq : ∀ group ∈ groups, group.length = 3

namespace FallsInto

theorem length_mod (h : FallsInto text first groups) : text.length % 3 = first.length % 3 := by
  have hgroups : groups.flatten.length = groups.length * 3 := by
    rw [List.length_flatten, List.map_congr_left h.length_eq, List.map_const', List.sum_replicate,
      smul_eq_mul]
  rw [← h.append_flatten, List.length_append, hgroups, Nat.add_mul_mod_self_right]

/-- A first group that is full is closed by one more character in front. -/
theorem cons_of_full (h : FallsInto text first groups) (hfull : first.length = 3) (c : Char) :
    FallsInto (c :: text) [c] (first :: groups) where
  append_flatten := by rw [← h.append_flatten]; rfl
  one_le_length := le_rfl
  length_le := by simp
  length_eq := List.forall_mem_cons.mpr ⟨hfull, h.length_eq⟩

/-- A first group that is not full takes one more character in front. -/
theorem cons_of_lt (h : FallsInto text first groups) (hroom : first.length < 3) (c : Char) :
    FallsInto (c :: text) (c :: first) groups where
  append_flatten := by rw [← h.append_flatten]; rfl
  one_le_length := by simp
  length_le := hroom
  length_eq := h.length_eq

end FallsInto

/-- However long a text is, its commas stand between the groups that it falls into. -/
theorem exists_fallsInto (hne : text ≠ []) :
    ∃ first groups, FallsInto text first groups ∧
      groupThousands text = List.intercalate [','] (first :: groups) := by
  induction text with
  | nil => exact absurd rfl hne
  | cons c rest ih =>
    by_cases hrest : rest = []
    · subst hrest
      exact ⟨[c], [], ⟨rfl, le_rfl, by simp, nofun⟩, List.intercalate_singleton.symm⟩
    · obtain ⟨first, groups, hfalls, htext⟩ := ih hrest
      -- the length of the rest is a multiple of three exactly if its first group is full
      have hmod := hfalls.length_mod
      have hlower := hfalls.one_le_length
      have hupper := hfalls.length_le
      by_cases hfull : first.length = 3
      · refine ⟨[c], first :: groups, hfalls.cons_of_full hfull c, ?_⟩
        rw [groupThousands, if_pos ⟨hrest, by omega⟩, htext, List.intercalate_cons_cons]
        rfl
      · refine ⟨c :: first, groups, hfalls.cons_of_lt (by omega) c, ?_⟩
        rw [groupThousands, if_neg (fun h ↦ by omega), htext]
        cases groups <;> simp

/-! ## Commas -/

/-- Nothing but commas is added. -/
theorem filter_groupThousands (text : List Char) :
    (groupThousands text).filter (· ≠ ',') = text.filter (· ≠ ',') := by
  induction text with
  | nil => rfl
  | cons c rest ih =>
    have hcons {tail : List Char} (htail : tail.filter (· ≠ ',') = rest.filter (· ≠ ',')) :
        (c :: tail).filter (· ≠ ',') = (c :: rest).filter (· ≠ ',') := by
      rw [List.filter_cons, List.filter_cons, htail]
    unfold groupThousands
    split
    case isTrue =>
      apply hcons
      rw [List.filter_cons_of_neg (by simp)]
      exact ih
    case isFalse => exact hcons ih

theorem eq_comma_or_mem (h : c ∈ groupThousands text) : c = ',' ∨ c ∈ text := by
  rw [or_iff_not_imp_left]
  intro hne
  have hmem : c ∈ (groupThousands text).filter (· ≠ ',') := List.mem_filter.mpr ⟨h, by simpa⟩
  rw [filter_groupThousands] at hmem
  exact List.mem_of_mem_filter hmem

theorem head?_groupThousands (text : List Char) : (groupThousands text).head? = text.head? := by
  cases text with
  | nil => rfl
  | cons c rest =>
    unfold groupThousands
    split <;> rfl

/-! ## Rates -/

theorem ne_of_isDigit {d : Char} (hc : c.isDigit = true) (hd : d.isDigit = false) : c ≠ d := by
  rintro rfl
  rw [hc] at hd
  cases hd

section

variable {places : Nat} {number : ℚ} {whole fraction : List Char}
  (h : Decimal.IsFixed places number whole fraction)

include h

theorem comma_not_mem_whole : ',' ∉ whole := fun hmem ↦
  ne_of_isDigit (h.isWhole.isDigit ',' hmem) rfl rfl

theorem comma_not_mem_afterPoint : ',' ∉ Decimal.afterPoint fraction := by
  intro hmem
  rcases Decimal.mem_afterPoint hmem with hpoint | hmem
  · cases hpoint
  · exact ne_of_isDigit (h.isDigit ',' hmem) rfl rfl

/-- Commas in the whole part leave its point where it was. -/
theorem dropWhile_groupThousands_append :
    (groupThousands whole ++ Decimal.afterPoint fraction).dropWhile (· ≠ '.') =
      Decimal.afterPoint fraction := by
  have hwhole : ∀ c ∈ groupThousands whole, decide (c ≠ '.') = true := by
    intro c hc
    apply decide_eq_true
    rcases eq_comma_or_mem hc with rfl | hmem
    · decide
    · exact ne_of_isDigit (h.isWhole.isDigit c hmem) rfl
  rw [List.dropWhile_append_of_pos hwhole, Decimal.dropWhile_afterPoint]

theorem filter_groupThousands_append :
    (groupThousands whole ++ Decimal.afterPoint fraction).filter (· ≠ ',') =
      whole ++ Decimal.afterPoint fraction := by
  have hkeep {text : List Char} (hcomma : ',' ∉ text) : text.filter (· ≠ ',') = text :=
    List.filter_eq_self.mpr fun c hc ↦ decide_eq_true (ne_of_mem_of_not_mem hc hcomma)
  rw [List.filter_append, filter_groupThousands, hkeep (comma_not_mem_whole h),
    hkeep (comma_not_mem_afterPoint h)]

theorem head?_groupThousands_append :
    (groupThousands whole ++ Decimal.afterPoint fraction).head? ≠ some ',' := by
  obtain ⟨c, rest, hc, hdigit⟩ := Json.head_of_areDigits h.isWhole.toAreDigits
  have hhead : (groupThousands whole).head? = some c := by rw [head?_groupThousands, hc]; rfl
  rw [List.head?_append, hhead, Option.some_or]
  intro hcomma
  exact ne_of_isDigit hdigit rfl (Option.some.inj hcomma)

/-- The whole part is what stands before the point. -/
theorem rateText_eq {rate : Float}
    (htext : Decimal.fixedText (ratePlaces rate) rate = whole ++ Decimal.afterPoint fraction) :
    rateText rate = groupThousands whole ++ Decimal.afterPoint fraction := by
  have hwhole : ∀ c ∈ whole, decide (c ≠ '.') = true := fun c hc ↦
    decide_eq_true (ne_of_isDigit (h.isWhole.isDigit c hc) rfl)
  rw [rateText, htext, List.takeWhile_append_of_pos hwhole, List.dropWhile_append_of_pos hwhole,
    Decimal.takeWhile_afterPoint, Decimal.dropWhile_afterPoint, List.append_nil]

end

/-- A finite rate that is not below zero, other than the negative zero, is displayed with nothing
but commas added to its decimal text, which has two places below one hundred and none from there on.
No comma is in front and none after the point. They stand between the groups of three digits that
the whole part falls into from the right, after a first group of one to three. -/
theorem rateText_groups_thousands {rate : Float} (hfinite : rate.isFinite = true)
    (hnonneg : 0.0 ≤ rate) (hne : rate ≠ -0.0) :
    (rateText rate).filter (· ≠ ',') = Decimal.fixedText (if rate < 100.0 then 2 else 0) rate ∧
      (∀ text, Decimal.IsFixedText (if rate < 100.0 then 2 else 0) (Binary64.value rate) text ↔
        text = (rateText rate).filter (· ≠ ',')) ∧
      (rateText rate).head? ≠ some ',' ∧
      ',' ∉ (rateText rate).dropWhile (· ≠ '.') ∧
      ∃ whole fraction first groups,
        Decimal.IsFixed (if rate < 100.0 then 2 else 0) (Binary64.value rate) whole fraction ∧
        FallsInto whole first groups ∧
        rateText rate =
          List.intercalate [','] (first :: groups) ++ Decimal.afterPoint fraction := by
  have hplaces : (if rate < 100.0 then 2 else 0) = ratePlaces rate := by
    simp only [ratePlaces, decide_eq_true_eq]
  have hsign := Binary64.isNegative_eq_false hfinite hnonneg hne
  obtain ⟨whole, fraction, hfixed, htext⟩ :=
    Decimal.isFixedText_fixedText hfinite hsign (ratePlaces rate)
  obtain ⟨first, groups, hfalls, hgroups⟩ := exists_fallsInto hfixed.isWhole.ne_nil
  have hrate := rateText_eq hfixed htext
  have hfilter : (rateText rate).filter (· ≠ ',') = Decimal.fixedText (ratePlaces rate) rate := by
    rw [hrate, filter_groupThousands_append hfixed, htext]
  rw [hplaces]
  refine ⟨hfilter, fun text ↦ ?_, ?_, ?_, whole, fraction, first, groups, hfixed, hfalls, ?_⟩
  · rw [hfilter]
    exact Decimal.isFixedText_iff hfinite hsign (ratePlaces rate)
  · rw [hrate]
    exact head?_groupThousands_append hfixed
  · rw [hrate, dropWhile_groupThousands_append hfixed]
    exact comma_not_mem_afterPoint hfixed
  · rw [hrate, hgroups]

/-- Halfway between two whole numbers the even one is displayed, in groups of one, three and three
digits. -/
theorem rateText_groups_thousands_tie :
    (1234567.5 : Float).isFinite = true ∧ (0.0 : Float) ≤ 1234567.5 ∧ (1234567.5 : Float) ≠ -0.0 ∧
      rateText 1234567.5 = "1,234,568".toList ∧
      Decimal.IsFixedText 0 (Binary64.value 1234567.5) "1234568".toList ∧
      ∃ whole fraction first groups,
        Decimal.IsFixed 0 (Binary64.value 1234567.5) whole fraction ∧
        FallsInto whole first groups ∧
        "1,234,568".toList =
          List.intercalate [','] (first :: groups) ++ Decimal.afterPoint fraction := by
  have hfinite : (1234567.5 : Float).isFinite = true := by decide +kernel
  have hnonneg : (0.0 : Float) ≤ 1234567.5 := by decide +kernel
  have hne : (1234567.5 : Float) ≠ -0.0 := by decide +kernel
  have hplaces : ¬(1234567.5 : Float) < 100.0 := by decide +kernel
  have hrate : rateText 1234567.5 = "1,234,568".toList := by decide +kernel
  obtain ⟨-, htext, -, -, hgroups⟩ := rateText_groups_thousands hfinite hnonneg hne
  rw [if_neg hplaces, hrate] at htext hgroups
  exact ⟨hfinite, hnonneg, hne, hrate, (htext _).mpr (by decide), hgroups⟩

/-- What is rounded up to one hundred keeps its places. -/
example : rateText 99.996 = "100.00".toList := by decide +kernel

end PushBench
