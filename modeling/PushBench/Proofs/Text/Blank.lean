import Mathlib.Data.List.DropRight
import PushBench.Text.Alphabetic
import PushBench.Text.Blank

/-!
# White space at the ends

White space is not alphabetic. Trimming takes it off both ends of a text, and what stands before or
after another character stays.
-/

namespace PushBench

/-! ## White space is not alphabetic -/

/-- The code points of a set of characters that ends with a change back. -/
def members : List Nat → List Nat
  | first :: after :: rest => List.range' first (after - first) ++ members rest
  | _ => []

theorem mem_members {changes : List Nat} {code : Nat} (heven : changes.length % 2 = 0)
    (hcode : memRanges changes code = true) : code ∈ members changes := by
  induction changes using members.induct with
  | case1 first after rest ih =>
    simp only [memRanges, List.length_cons] at hcode heven
    rw [members, List.mem_append, List.mem_range'_1]
    split at hcode
    next => cases hcode
    next hfirst =>
      split at hcode
      next => exact .inl (by omega)
      next =>
        rw [Bool.not_not] at hcode
        exact .inr (ih (by omega) hcode)
  | case2 changes hshort =>
    match changes, hshort with
    | [], _ => cases hcode
    | [_], _ => cases heven
    | first :: after :: rest, hshort => exact absurd rfl (hshort first after rest)

theorem isAlphabetic_of_isBlank {c : Char} (h : isBlank c = true) : isAlphabetic c = false := by
  have htable : ∀ code ∈ members blankChanges, memRanges alphabeticChanges code = false := by
    decide +kernel
  exact htable c.toNat (mem_members (by decide) h)

/-! ## Trimming -/

/-- Nothing but white space. -/
def AllBlank (text : List Char) : Prop := ∀ c ∈ text, isBlank c = true

variable {text before after : List Char} {c : Char}

theorem allBlank_nil : AllBlank [] := fun _ hc ↦ absurd hc List.not_mem_nil

theorem trimStart_append_of_allBlank (h : AllBlank before) :
    trimStart (before ++ text) = trimStart text :=
  List.dropWhile_append_of_pos h

theorem trimEnd_append_of_allBlank (h : AllBlank after) :
    trimEnd (text ++ after) = trimEnd text := by
  rw [trimEnd, trimEnd, List.reverse_append, List.dropWhile_append_of_pos]
  exact fun c hc ↦ h c (List.mem_reverse.mp hc)

theorem trimStart_eq_self (h : ∀ c ∈ text, isBlank c = false) : trimStart text = text := by
  cases text with
  | nil => rfl
  | cons c text =>
    exact List.dropWhile_cons_of_neg (by rw [h c List.mem_cons_self]; exact Bool.false_ne_true)

theorem trim_eq_self (h : ∀ c ∈ text, isBlank c = false) : trim text = text := by
  have hreverse := @trimStart_eq_self text.reverse fun c hc ↦ h c (List.mem_reverse.mp hc)
  rw [trimStart] at hreverse
  rw [trim, trimStart_eq_self h, trimEnd, hreverse, List.reverse_reverse]

/-- White space stays before a character that is none. -/
theorem trimStart_append_cons (h : isBlank c = false) :
    trimStart (before ++ c :: text) = trimStart before ++ c :: text := by
  have hc : ¬isBlank c = true := by rw [h]; exact Bool.false_ne_true
  unfold trimStart
  rw [List.dropWhile_append]
  split
  next hnil => rw [List.isEmpty_iff.mp hnil, List.nil_append, List.dropWhile_cons_of_neg hc]
  next => rfl

/-- White space stays after a character that is none. -/
theorem trimEnd_append_cons (h : isBlank c = false) :
    trimEnd (before ++ c :: text) = before ++ trimEnd (c :: text) := by
  have hsome : ¬(List.dropWhile isBlank (c :: text).reverse).isEmpty = true := by
    rw [List.isEmpty_iff, List.dropWhile_eq_nil_iff]
    intro hblank
    rw [hblank c (by simp)] at h
    cases h
  rw [trimEnd, trimEnd, List.reverse_append, List.dropWhile_append, if_neg hsome,
    List.reverse_append, List.reverse_reverse]

theorem trim_append_cons (h : isBlank c = false) :
    trim (before ++ c :: text) = trimStart before ++ trimEnd (c :: text) := by
  rw [trim, trimStart_append_cons h, trimEnd_append_cons h]

theorem head?_trimEnd_cons (h : isBlank c = false) : (trimEnd (c :: text)).head? = some c := by
  obtain ⟨after, hafter⟩ := List.rdropWhile_prefix isBlank (c :: text)
  change trimEnd (c :: text) ++ after = c :: text at hafter
  cases htrim : trimEnd (c :: text) with
  | nil =>
    have hblank := List.rdropWhile_eq_nil_iff.mp htrim c List.mem_cons_self
    rw [h] at hblank
    cases hblank
  | cons first rest =>
    rw [htrim, List.cons_append] at hafter
    rw [List.head?_cons, (List.cons.inj hafter).1]

/-- White space around a text does not matter for the trimmed text. -/
theorem trim_append_append (hbefore : AllBlank before) (hafter : AllBlank after) :
    trim (before ++ text ++ after) = trim text := by
  rw [trim, trim, List.append_assoc, trimStart_append_of_allBlank hbefore]
  unfold trimStart
  rw [List.dropWhile_append]
  split
  next hnil =>
    rw [List.isEmpty_iff.mp hnil, List.dropWhile_eq_nil_iff.mpr hafter]
  next => exact trimEnd_append_of_allBlank hafter

/-- Once white space at the start is gone, trimming takes off what it did before. -/
theorem trim_trimStart (text : List Char) : trim (trimStart text) = trim text := by
  rw [trim, trim, trimStart, trimStart, List.dropWhile_idempotent]

end PushBench
