import Mathlib.Data.List.Forall2
import PushBench.Json.Reader
import PushBench.Json.Writer

/-!
# Quoted texts in JSON

Every text that is written in quotes is read back, whatever its characters are. The reader takes the
parts of a string apart first and joins them afterwards, so each written character is followed
through both.
-/

namespace PushBench.Json

/-- A part of a string stands for a character: by itself, or by the number of a control. -/
inductive StringPart.StandsFor : StringPart → Char → Prop
  | char (c : Char) : StandsFor (.char c) c
  | unit {c : Char} (hc : c.toNat < 32) : StandsFor (.unit c.toNat) c

open StringPart (StandsFor)

variable {parts : List StringPart} {chars : List Char}

theorem hexUnit_control {code : Nat} (hcode : code < 32) :
    hexUnit '0' '0' (Nat.digitChar (code / 16)) (Nat.digitChar (code % 16)) = some code := by
  have hall : ∀ code < 32, hexUnit '0' '0' (Nat.digitChar (code / 16)) (Nat.digitChar (code % 16))
      = some code := by decide
  exact hall code hcode

/-- What is written for a character is read as one part that stands for it. -/
theorem exists_readParts_escapeChar (c : Char) :
    ∃ part, StandsFor part c ∧ ∀ rest, readParts (escapeChar c ++ rest) =
      (readParts rest).map fun (parts, rest) ↦ (part :: parts, rest) := by
  -- a control without a letter of its own is read as its number, all else as the character itself
  by_cases hletter : c = '"' ∨ c = '\\' ∨ c = '\x08' ∨ c = '\t' ∨ c = '\n' ∨ c = '\x0c' ∨ c = '\r'
  · refine ⟨.char c, .char c, fun rest ↦ ?_⟩
    rcases hletter with rfl | rfl | rfl | rfl | rfl | rfl | rfl <;>
      cases h : readParts rest <;> simp [escapeChar, readParts, escaped, h]
  · simp only [not_or] at hletter
    obtain ⟨hquote, hslash, hback, htab, hline, hfeed, hreturn⟩ := hletter
    by_cases hcontrol : c.toNat < 32
    · refine ⟨.unit c.toNat, .unit hcontrol, fun rest ↦ ?_⟩
      have hcode := hexUnit_control hcontrol
      cases h : readParts rest <;>
        simp [escapeChar, controlDigits, readParts, *]
    · refine ⟨.char c, .char c, fun rest ↦ ?_⟩
      have hplain : escapeChar c = [c] := by simp [escapeChar, *]
      rw [hplain, List.singleton_append, readParts.eq_def]
      split
      case h_5 heq =>
        obtain ⟨rfl, rfl⟩ := List.cons.inj heq
        rw [if_neg (not_or.mpr ⟨hcontrol, hslash⟩)]
      all_goals simp_all

theorem exists_readParts_escaped (chars rest : List Char) :
    ∃ parts, List.Forall₂ StandsFor parts chars ∧
      readParts (chars.flatMap escapeChar ++ '"' :: rest) = some (parts, rest) := by
  induction chars with
  | nil => exact ⟨[], .nil, rfl⟩
  | cons c chars ih =>
    obtain ⟨part, hpart, hread⟩ := exists_readParts_escapeChar c
    obtain ⟨parts, hparts, hrest⟩ := ih
    refine ⟨part :: parts, .cons hpart hparts, ?_⟩
    rw [List.flatMap_cons, List.append_assoc, hread, hrest, Option.map_some]

theorem joinParts_unit {code : Nat} (hcode : code < 0xd800) (parts : List StringPart) :
    joinParts (.unit code :: parts) = (joinParts parts).map (Char.ofNat code :: ·) := by
  have hleading : isLeading code = false := by simp [isLeading]; omega
  have htrailing : isTrailing code = false := by simp [isTrailing]; omega
  cases parts with
  | nil => simp [joinParts, hleading, htrailing]
  | cons part rest => cases part <;> simp [joinParts, hleading, htrailing]

theorem joinParts_of_standsFor (h : List.Forall₂ StandsFor parts chars) :
    joinParts parts = some chars := by
  induction h with
  | nil => rfl
  | cons hpart _ ih =>
    cases hpart with
    | char c => rw [joinParts, ih, Option.map_some]
    | unit hc =>
      rw [joinParts_unit (Nat.lt_of_lt_of_le hc (by decide)), ih, Option.map_some,
        Char.ofNat_toNat]

/-- A quoted text is read as that text. -/
theorem readString_quoted (text : String) (rest : List Char) :
    readString (text.toList.flatMap escapeChar ++ '"' :: rest) = some (.string text, rest) := by
  obtain ⟨parts, hparts, hread⟩ := exists_readParts_escaped text.toList rest
  simp only [readString, hread, Option.map_some, joinParts_of_standsFor hparts,
    String.ofList_toList]

end PushBench.Json
