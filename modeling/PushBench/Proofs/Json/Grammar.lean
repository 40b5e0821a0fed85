import Mathlib.Data.List.DropRight
import PushBench.Proofs.Json.Number
import PushBench.Proofs.Json.Quotation

/-!
# The grammar of JSON texts

A text spells a value if it lays out the value's parts with white space where it may stand. The
reader takes in every text that spells a value, and the value that it reads is the one that is
spelled. Both ways of writing spell what they write.
-/

namespace PushBench.Json

/-! ## White space -/

/-- White space between the parts of a value. -/
def IsBlank (text : List Char) : Prop := ∀ c ∈ text, isSpace c = true

variable {text blank rest : List Char}

theorem skipSpace_append (hblank : IsBlank blank) (text : List Char) :
    skipSpace (blank ++ text) = skipSpace text :=
  List.dropWhile_append_of_pos hblank

theorem skipSpace_cons {c : Char} (hc : isSpace c = false) (text : List Char) :
    skipSpace (c :: text) = c :: text :=
  List.dropWhile_cons_of_neg (by simp [hc])

theorem skipSpace_skipSpace (text : List Char) : skipSpace (skipSpace text) = skipSpace text :=
  List.dropWhile_idempotent isSpace text

theorem isBlank_nil : IsBlank [] := fun _ hc ↦ absurd hc List.not_mem_nil

theorem isBlank_space : IsBlank [' '] := by
  rintro c (_ | _)
  · rfl
  · contradiction

theorem isBlank_newline (level : Nat) : IsBlank (newline level) := by
  intro c hc
  rcases List.mem_cons.mp hc with rfl | hc
  · rfl
  · rw [List.eq_of_mem_replicate hc]; rfl

theorem endsNumber_append (hblank : IsBlank blank) (hrest : EndsNumber rest) :
    EndsNumber (blank ++ rest) := by
  cases blank with
  | nil => exact hrest
  | cons c tail =>
    rintro _ ⟨⟩
    have hspace : isSpace c = true := hblank c List.mem_cons_self
    simp only [isSpace, Bool.or_eq_true, beq_iff_eq] at hspace
    rcases hspace with ((rfl | rfl) | rfl) | rfl <;> decide

theorem endsNumber_cons {c : Char} (hc : c.isDigit = false ∧ c ≠ '.' ∧ c ≠ 'e' ∧ c ≠ 'E') :
    EndsNumber (c :: rest) := by
  rintro _ ⟨⟩
  exact hc

theorem isSpace_of_number {c : Char} (hc : c.isDigit = true ∨ c = '-') : isSpace c = false := by
  by_contra hspace
  simp only [isSpace, Bool.not_eq_false, Bool.or_eq_true, beq_iff_eq] at hspace
  rcases hspace with ((rfl | rfl) | rfl) | rfl <;> revert hc <;> decide

/-! ## Spelling -/

mutual

/-- A text spells a value. -/
inductive Spells : Json → List Char → Prop
  | null : Spells .null nullText
  | bool (value : Bool) : Spells (.bool value) (boolText value)
  | number {literal : List Char} (hliteral : IsNumber literal) : Spells (.number literal) literal
  | string (text : String) : Spells (.string text) (quote text)
  | emptyArray : Spells (.array []) ['[', ']']
  | array {items : List Json} {text : List Char} (hitems : SpellsItems items text) :
      Spells (.array items) ('[' :: text ++ [']'])
  | emptyObject : Spells (.object []) ['\x7b', '\x7d']
  | object {members : List (String × Json)} {text : List Char}
      (hmembers : SpellsMembers members text) :
      Spells (.object members) ('\x7b' :: text ++ ['\x7d'])

/-- A text spells items with commas between them, of which there is one at least. -/
inductive SpellsItems : List Json → List Char → Prop
  | last {item : Json} {before text after : List Char} (hbefore : IsBlank before)
      (hitem : Spells item text) (hafter : IsBlank after) :
      SpellsItems [item] (before ++ text ++ after)
  | more {item : Json} {items : List Json} {before text rest : List Char} (hbefore : IsBlank before)
      (hitem : Spells item text) (hitems : SpellsItems items rest) :
      SpellsItems (item :: items) (before ++ text ++ ',' :: rest)

/-- A text spells members with commas between them, of which there is one at least. -/
inductive SpellsMembers : List (String × Json) → List Char → Prop
  | last {name : String} {value : Json} {before between text after : List Char}
      (hbefore : IsBlank before) (hbetween : IsBlank between) (hvalue : Spells value text)
      (hafter : IsBlank after) :
      SpellsMembers [(name, value)] (before ++ quote name ++ ':' :: between ++ text ++ after)
  | more {name : String} {value : Json} {members : List (String × Json)}
      {before between text rest : List Char} (hbefore : IsBlank before)
      (hbetween : IsBlank between) (hvalue : Spells value text)
      (hmembers : SpellsMembers members rest) :
      SpellsMembers ((name, value) :: members)
        (before ++ quote name ++ ':' :: between ++ text ++ ',' :: rest)

end

/-- A spelled value starts with a character of its own, which closes nothing. -/
theorem head_of_spells {value : Json} (h : Spells value text) :
    ∃ c tail, text = c :: tail ∧ isSpace c = false ∧ c ≠ ']' := by
  cases h with
  | null => exact ⟨_, _, rfl, by decide⟩
  | bool value => cases value <;> exact ⟨_, _, rfl, by decide⟩
  | number hliteral =>
    obtain ⟨c, tail, rfl, hc⟩ := head_of_isNumber hliteral
    exact ⟨c, tail, rfl, isSpace_of_number hc, by rintro rfl; revert hc; decide⟩
  | string text => exact ⟨_, _, rfl, by decide⟩
  | emptyArray => exact ⟨_, _, rfl, by decide⟩
  | array hitems => exact ⟨_, _, rfl, by decide⟩
  | emptyObject => exact ⟨_, _, rfl, by decide⟩
  | object hmembers => exact ⟨_, _, rfl, by decide⟩

theorem skipSpace_of_spellsItems {items : List Json} (h : SpellsItems items text)
    (rest : List Char) : ∃ c tail, skipSpace (text ++ rest) = c :: tail ∧ c ≠ ']' := by
  cases h with
  | last hbefore hitem =>
    obtain ⟨c, tail, rfl, hspace, hc⟩ := head_of_spells hitem
    simp only [List.append_assoc, skipSpace_append hbefore, List.cons_append, skipSpace_cons hspace]
    exact ⟨c, _, rfl, hc⟩
  | more hbefore hitem =>
    obtain ⟨c, tail, rfl, hspace, hc⟩ := head_of_spells hitem
    simp only [List.append_assoc, skipSpace_append hbefore, List.cons_append, skipSpace_cons hspace]
    exact ⟨c, _, rfl, hc⟩

theorem skipSpace_of_spellsMembers {members : List (String × Json)}
    (h : SpellsMembers members text) (rest : List Char) :
    ∃ tail, skipSpace (text ++ rest) = '"' :: tail := by
  have hquote : isSpace '"' = false := by decide
  cases h with
  | last hbefore =>
    simp only [List.append_assoc, skipSpace_append hbefore, quote, List.cons_append,
      skipSpace_cons hquote]
    exact ⟨_, rfl⟩
  | more hbefore =>
    simp only [List.append_assoc, skipSpace_append hbefore, quote, List.cons_append,
      skipSpace_cons hquote]
    exact ⟨_, rfl⟩

/-! ## Steps of the reader -/

theorem readValue_skipSpace (fuel : Nat) (text : List Char) :
    readValue fuel (skipSpace text) = readValue fuel text := by
  cases fuel with
  | zero => rfl
  | succ fuel => rw [readValue, readValue, skipSpace_skipSpace]

theorem readValue_append_blank (fuel : Nat) (hblank : IsBlank blank) (text : List Char) :
    readValue fuel (blank ++ text) = readValue fuel text := by
  rw [← readValue_skipSpace, skipSpace_append hblank, readValue_skipSpace]

theorem readItems_skipSpace (fuel : Nat) (text : List Char) :
    readItems fuel (skipSpace text) = readItems fuel text := by
  cases fuel with
  | zero => rfl
  | succ fuel => rw [readItems, readItems, readValue_skipSpace]

theorem readMembers_skipSpace (fuel : Nat) (text : List Char) :
    readMembers fuel (skipSpace text) = readMembers fuel text := by
  cases fuel with
  | zero => rfl
  | succ fuel => rw [readMembers, readMembers, skipSpace_skipSpace]

theorem readValue_number (fuel : Nat) {c : Char} (hc : c.isDigit = true ∨ c = '-')
    (text : List Char) :
    readValue (fuel + 1) (c :: text) =
      (readNumber (c :: text)).map fun (literal, rest) ↦ (.number literal, rest) := by
  rw [readValue, skipSpace_cons (isSpace_of_number hc)]
  split
  case h_7 => rfl
  -- no other value starts with a digit or with a sign
  all_goals
    obtain ⟨rfl, -⟩ := List.cons.inj ‹c :: text = _›
    exact absurd hc (by decide)

theorem readValue_array (fuel : Nat) {c : Char} {tail : List Char}
    (htext : skipSpace text = c :: tail) (hc : c ≠ ']') :
    readValue (fuel + 1) ('[' :: text) =
      (readItems fuel text).map fun (items, rest) ↦ (.array items, rest) := by
  rw [← readItems_skipSpace fuel text, htext]
  simp only [readValue, skipSpace_cons (show isSpace '[' = false by decide), htext]
  split
  case h_1 heq => exact absurd (List.cons.inj heq).1 hc
  case h_2 => rfl

theorem readValue_object (fuel : Nat) {tail : List Char} (htext : skipSpace text = '"' :: tail) :
    readValue (fuel + 1) ('\x7b' :: text) =
      (readMembers fuel text).map fun (members, rest) ↦ (.object members, rest) := by
  rw [← readMembers_skipSpace fuel text, htext]
  simp only [readValue, skipSpace_cons (show isSpace '\x7b' = false by decide), htext]
  rfl

theorem skipSpace_quote (name : String) (rest : List Char) :
    skipSpace (quote name ++ rest) = quote name ++ rest := by
  rw [quote, List.cons_append, List.cons_append]
  exact skipSpace_cons (by decide) _

theorem readName_quote (name : String) (rest : List Char) :
    readName (quote name ++ ':' :: rest) = some (name, rest) := by
  have hread := readString_quoted name (':' :: rest)
  simp only [quote, List.cons_append, List.append_assoc, List.nil_append, readName, hread,
    skipSpace_cons (show isSpace ':' = false by decide)]

/-! ## Reading what is spelled -/

mutual

/-- A spelled value is read, where nothing follows that a number could go on with. -/
theorem readValue_append {value : Json} {text : List Char} (h : Spells value text) {fuel : Nat}
    (hfuel : 2 * text.length + 1 ≤ fuel) {rest : List Char} (hrest : EndsNumber rest) :
    readValue fuel (text ++ rest) = some (value, rest) := by
  -- a value inside of another takes two units of fuel, and its brackets are two characters more
  obtain ⟨fuel, rfl⟩ : ∃ fewer, fuel = fewer + 1 := ⟨fuel - 1, by omega⟩
  cases h with
  | null => rfl
  | bool value => cases value <;> rfl
  | number hliteral =>
    have hread := readNumber_append hliteral hrest
    obtain ⟨c, tail, rfl, hc⟩ := head_of_isNumber hliteral
    rw [List.cons_append] at hread ⊢
    rw [readValue_number fuel hc, hread, Option.map_some]
  | string text =>
    simp [readValue, quote, skipSpace_cons (show isSpace '"' = false by decide),
      readString_quoted]
  | emptyArray => rfl
  | @array items text hitems =>
    simp only [List.length_append, List.length_cons, List.length_nil] at hfuel
    have hread := readItems_append hitems (show 2 * text.length + 2 ≤ fuel by omega) rest
    obtain ⟨c, tail, hhead, hc⟩ := skipSpace_of_spellsItems hitems (']' :: rest)
    simp only [List.cons_append, List.append_assoc, List.nil_append]
    rw [readValue_array fuel hhead hc, hread, Option.map_some]
  | emptyObject => rfl
  | @object members text hmembers =>
    simp only [List.length_append, List.length_cons, List.length_nil] at hfuel
    have hread := readMembers_append hmembers (show 2 * text.length + 2 ≤ fuel by omega) rest
    obtain ⟨tail, hhead⟩ := skipSpace_of_spellsMembers hmembers ('\x7d' :: rest)
    simp only [List.cons_append, List.append_assoc, List.nil_append]
    rw [readValue_object fuel hhead, hread, Option.map_some]

/-- Spelled items are read up to the end of their array. -/
theorem readItems_append {items : List Json} {text : List Char} (h : SpellsItems items text)
    {fuel : Nat} (hfuel : 2 * text.length + 2 ≤ fuel) (rest : List Char) :
    readItems fuel (text ++ ']' :: rest) = some (items, rest) := by
  obtain ⟨fuel, rfl⟩ : ∃ fewer, fuel = fewer + 1 := ⟨fuel - 1, by omega⟩
  cases h with
  | @last item before text after hbefore hitem hafter =>
    simp only [List.length_append] at hfuel
    have hends : EndsNumber (after ++ ']' :: rest) :=
      endsNumber_append hafter (endsNumber_cons (by decide))
    have hread := readValue_append hitem (show 2 * text.length + 1 ≤ fuel by omega) hends
    simp only [List.append_assoc, readItems, readValue_append_blank _ hbefore, hread,
      skipSpace_append hafter, skipSpace_cons (show isSpace ']' = false by decide)]
  | @more item items before text others hbefore hitem hitems =>
    simp only [List.length_append, List.length_cons] at hfuel
    have hends : EndsNumber (',' :: (others ++ ']' :: rest)) := endsNumber_cons (by decide)
    have hread := readValue_append hitem (show 2 * text.length + 1 ≤ fuel by omega) hends
    have hothers := readItems_append hitems (show 2 * others.length + 2 ≤ fuel by omega) rest
    simp only [List.append_assoc, List.cons_append, readItems, readValue_append_blank _ hbefore,
      hread, skipSpace_cons (show isSpace ',' = false by decide), hothers, Option.map_some]

/-- Spelled members are read up to the end of their object. -/
theorem readMembers_append {members : List (String × Json)} {text : List Char}
    (h : SpellsMembers members text) {fuel : Nat} (hfuel : 2 * text.length + 2 ≤ fuel)
    (rest : List Char) : readMembers fuel (text ++ '\x7d' :: rest) = some (members, rest) := by
  obtain ⟨fuel, rfl⟩ : ∃ fewer, fuel = fewer + 1 := ⟨fuel - 1, by omega⟩
  cases h with
  | @last name value before between text after hbefore hbetween hvalue hafter =>
    simp only [List.length_append, List.length_cons] at hfuel
    have hends : EndsNumber (after ++ '\x7d' :: rest) :=
      endsNumber_append hafter (endsNumber_cons (by decide))
    have hread := readValue_append hvalue (show 2 * text.length + 1 ≤ fuel by omega) hends
    simp only [List.append_assoc, List.cons_append, readMembers, skipSpace_append hbefore,
      skipSpace_quote, readName_quote, readValue_append_blank _ hbetween, hread,
      skipSpace_append hafter, skipSpace_cons (show isSpace '\x7d' = false by decide)]
  | @more name value members before between text others hbefore hbetween hvalue hmembers =>
    simp only [List.length_append, List.length_cons] at hfuel
    have hends : EndsNumber (',' :: (others ++ '\x7d' :: rest)) := endsNumber_cons (by decide)
    have hread := readValue_append hvalue (show 2 * text.length + 1 ≤ fuel by omega) hends
    have hothers := readMembers_append hmembers (show 2 * others.length + 2 ≤ fuel by omega) rest
    simp only [List.append_assoc, List.cons_append, readMembers, skipSpace_append hbefore,
      skipSpace_quote, readName_quote, readValue_append_blank _ hbetween, hread,
      skipSpace_cons (show isSpace ',' = false by decide), hothers, Option.map_some]

end

/-! ## Writing -/

mutual

/-- Every number in a value is spelled by the grammar, and every string is a text. -/
def IsProper : Json → Prop
  | .number literal => IsNumber literal
  | .unpaired => False
  | .array items => AreProper items
  | .object members => AreProperMembers members
  | _ => True

/-- All items are proper. -/
def AreProper : List Json → Prop
  | [] => True
  | item :: rest => IsProper item ∧ AreProper rest

/-- The values of all members are proper. -/
def AreProperMembers : List (String × Json) → Prop
  | [] => True
  | (_, value) :: rest => IsProper value ∧ AreProperMembers rest

end

mutual

theorem spells_compact : ∀ {value : Json}, IsProper value → Spells value value.compact
  | .null, _ => .null
  | .bool value, _ => .bool value
  | .number _, h => .number h
  | .string text, _ => .string text
  | .array [], _ => .emptyArray
  | .array (_ :: _), h => .array (spellsItems_compact h (List.cons_ne_nil _ _))
  | .object [], _ => .emptyObject
  | .object (_ :: _), h => .object (spellsMembers_compact h (List.cons_ne_nil _ _))

theorem spellsItems_compact : ∀ {items : List Json}, AreProper items → items ≠ [] →
    SpellsItems items (compactItems items)
  | [], _, hne => absurd rfl hne
  | [item], ⟨hitem, _⟩, _ => by
    simpa [compactItems] using SpellsItems.last isBlank_nil (spells_compact hitem) isBlank_nil
  | item :: next :: items, ⟨hitem, hitems⟩, _ => by
    have hnext := spellsItems_compact hitems (List.cons_ne_nil _ _)
    simpa [compactItems] using SpellsItems.more isBlank_nil (spells_compact hitem) hnext

theorem spellsMembers_compact : ∀ {members : List (String × Json)}, AreProperMembers members →
    members ≠ [] → SpellsMembers members (compactMembers members)
  | [], _, hne => absurd rfl hne
  | [(name, value)], ⟨hvalue, _⟩, _ => by
    simpa [compactMembers] using
      SpellsMembers.last isBlank_nil isBlank_nil (spells_compact hvalue) isBlank_nil
  | (name, value) :: next :: members, ⟨hvalue, hmembers⟩, _ => by
    have hnext := spellsMembers_compact hmembers (List.cons_ne_nil _ _)
    simpa [compactMembers] using
      SpellsMembers.more isBlank_nil isBlank_nil (spells_compact hvalue) hnext

end

mutual

theorem spells_prettyAt : ∀ {value : Json} (level : Nat), IsProper value →
    Spells value (prettyAt level value)
  | .null, _, _ => .null
  | .bool value, _, _ => .bool value
  | .number _, _, h => .number h
  | .string text, _, _ => .string text
  | .array [], _, _ => .emptyArray
  | .array (_ :: _), level, h => by
    have hitems := spellsItems_pretty (level + 1) (isBlank_newline level) h (List.cons_ne_nil _ _)
    simpa [prettyAt] using Spells.array hitems
  | .object [], _, _ => .emptyObject
  | .object (_ :: _), level, h => by
    have hmembers :=
      spellsMembers_pretty (level + 1) (isBlank_newline level) h (List.cons_ne_nil _ _)
    simpa [prettyAt] using Spells.object hmembers

theorem spellsItems_pretty : ∀ {items : List Json} (level : Nat) {blank : List Char},
    IsBlank blank → AreProper items → items ≠ [] →
      SpellsItems items (prettyItems level items ++ blank)
  | [], _, _, _, _, hne => absurd rfl hne
  | [item], level, _, hblank, ⟨hitem, _⟩, _ =>
    .last (isBlank_newline level) (spells_prettyAt level hitem) hblank
  | item :: next :: items, level, _, hblank, ⟨hitem, hitems⟩, _ => by
    have hnext := spellsItems_pretty level hblank hitems (List.cons_ne_nil _ _)
    simpa [prettyItems] using
      SpellsItems.more (isBlank_newline level) (spells_prettyAt level hitem) hnext

theorem spellsMembers_pretty : ∀ {members : List (String × Json)} (level : Nat)
    {blank : List Char}, IsBlank blank → AreProperMembers members → members ≠ [] →
      SpellsMembers members (prettyMembers level members ++ blank)
  | [], _, _, _, _, hne => absurd rfl hne
  | [(name, value)], level, _, hblank, ⟨hvalue, _⟩, _ => by
    simpa [prettyMembers] using
      SpellsMembers.last (isBlank_newline level) isBlank_space (spells_prettyAt level hvalue) hblank
  | (name, value) :: next :: members, level, _, hblank, ⟨hvalue, hmembers⟩, _ => by
    have hnext := spellsMembers_pretty level hblank hmembers (List.cons_ne_nil _ _)
    simpa [prettyMembers] using
      SpellsMembers.more (isBlank_newline level) isBlank_space (spells_prettyAt level hvalue) hnext

end

/-- A text that spells a value is read as that value. -/
theorem read_of_spells {value : Json} (h : Spells value text) : read text = some value := by
  have hends : EndsNumber [] := by rintro _ ⟨⟩
  have hread := readValue_append h (Nat.le_succ (2 * text.length + 1)) hends
  rw [List.append_nil] at hread
  rw [read, hread]
  rfl

/-- A proper value that is written without white space is read back. -/
theorem read_compact {value : Json} (h : IsProper value) : read value.compact = some value :=
  read_of_spells (spells_compact h)

/-- A proper value that is written over several lines is read back. -/
theorem read_pretty {value : Json} (h : IsProper value) : read value.pretty = some value :=
  read_of_spells (spells_prettyAt 0 h)

end PushBench.Json
