import PushBench.Filter.CharSet
import PushBench.Text.Alphabetic
import PushBench.Text.Category

/-!
# Properties in patterns

The sets of characters that a pattern can ask for by the name of a property: general categories, and
a few properties that hold or do not. Case, blanks, underscores and hyphens in names do not count,
and neither does "is" in front.
-/

namespace PushBench

/-- The general categories that a name stands for. The name is in its plain form. -/
def Category.ofName? : String → Option (List Category)
  | "lu" | "uppercaseletter" => some [.uppercaseLetter]
  | "ll" | "lowercaseletter" => some [.lowercaseLetter]
  | "lt" | "titlecaseletter" => some [.titlecaseLetter]
  | "lc" | "casedletter" => some [.uppercaseLetter, .lowercaseLetter, .titlecaseLetter]
  | "lm" | "modifierletter" => some [.modifierLetter]
  | "lo" | "otherletter" => some [.otherLetter]
  | "l" | "letter" =>
    some [.uppercaseLetter, .lowercaseLetter, .titlecaseLetter, .modifierLetter, .otherLetter]
  | "mn" | "nonspacingmark" => some [.nonspacingMark]
  | "mc" | "spacingmark" => some [.spacingMark]
  | "me" | "enclosingmark" => some [.enclosingMark]
  | "m" | "mark" | "combiningmark" => some [.nonspacingMark, .spacingMark, .enclosingMark]
  | "nd" | "decimalnumber" | "digit" => some [.decimalNumber]
  | "nl" | "letternumber" => some [.letterNumber]
  | "no" | "othernumber" => some [.otherNumber]
  | "n" | "number" => some [.decimalNumber, .letterNumber, .otherNumber]
  | "pc" | "connectorpunctuation" => some [.connectorPunctuation]
  | "pd" | "dashpunctuation" => some [.dashPunctuation]
  | "ps" | "openpunctuation" => some [.openPunctuation]
  | "pe" | "closepunctuation" => some [.closePunctuation]
  | "pi" | "initialpunctuation" => some [.initialPunctuation]
  | "pf" | "finalpunctuation" => some [.finalPunctuation]
  | "po" | "otherpunctuation" => some [.otherPunctuation]
  | "p" | "punct" | "punctuation" =>
    some [.connectorPunctuation, .dashPunctuation, .openPunctuation, .closePunctuation,
      .initialPunctuation, .finalPunctuation, .otherPunctuation]
  | "sm" | "mathsymbol" => some [.mathSymbol]
  | "sc" | "currencysymbol" => some [.currencySymbol]
  | "sk" | "modifiersymbol" => some [.modifierSymbol]
  | "so" | "othersymbol" => some [.otherSymbol]
  | "s" | "symbol" => some [.mathSymbol, .currencySymbol, .modifierSymbol, .otherSymbol]
  | "zs" | "spaceseparator" => some [.spaceSeparator]
  | "zl" | "lineseparator" => some [.lineSeparator]
  | "zp" | "paragraphseparator" => some [.paragraphSeparator]
  | "z" | "separator" => some [.spaceSeparator, .lineSeparator, .paragraphSeparator]
  | "cc" | "control" | "cntrl" => some [.control]
  | "cf" | "format" => some [.format]
  | "co" | "privateuse" => some [.privateUse]
  | _ => none

/-- A set of characters that a property names. -/
structure PropertyQuery where
  set : CharSet
  /-- Whether the characters outside of the set are asked for. -/
  negated : Bool := false

namespace PropertyQuery

/-- The characters of some categories. -/
def ofCategories (categories : List Category) : CharSet :=
  .unions (categories.map fun category ↦ .property category.changes)

/-- The assigned characters. -/
def assigned : CharSet := ofCategories Category.all

/-- The set of a value of the general category. -/
def ofCategoryName? : String → Option CharSet
  | "any" => some (.complement .empty)
  | "ascii" => some (.range 0 127)
  | "assigned" => some assigned
  | "cn" | "unassigned" => some (.complement assigned)
  | "c" | "other" =>
    some (.union (ofCategories [.control, .format, .privateUse]) (.complement assigned))
  | name => (Category.ofName? name).map ofCategories

/-- The set of a property that holds or does not. -/
def ofPropertyName? : String → Option CharSet
  | "alpha" | "alphabetic" => some (.property alphabeticChanges)
  | "wspace" | "whitespace" | "space" => some .space
  | "upper" | "uppercase" =>
    some (.union (ofCategories [.uppercaseLetter]) (.property Category.otherUppercaseChanges))
  | "lower" | "lowercase" =>
    some (.union (ofCategories [.lowercaseLetter]) (.property Category.otherLowercaseChanges))
  | "cased" => some (.property casedChanges)
  | "ahex" | "asciihexdigit" => CharSet.ofAsciiName? "xdigit"
  | _ => none

/-- A name without what does not count in it. -/
def plainName (name : List Char) : String :=
  let kept := fun name : List Char ↦
    String.ofList ((name.filter fun c ↦ decide (c.toNat < 128) && !" _-".toList.contains c).map
      Char.toLower)
  match name with
  | i :: s :: rest =>
    if i.toLower = 'i' ∧ s.toLower = 's' ∧ kept rest ≠ "c" then kept rest else kept name
  | name => kept name

/-- The set of a name alone. -/
def ofName? (name : List Char) : Option CharSet :=
  let name := plainName name
  (ofPropertyName? name).or (ofCategoryName? name)

/-- The set of a value of a property. -/
def ofValue? (property value : List Char) : Option CharSet :=
  match plainName property with
  | "gc" | "generalcategory" => ofCategoryName? (plainName value)
  | _ => none

/-- The two sides of the first exclamation mark that an equals sign follows. -/
def splitUnequal : List Char → Option (List Char × List Char)
  | '!' :: '=' :: rest => some ([], rest)
  | c :: rest => (splitUnequal rest).map fun (left, right) ↦ (c :: left, right)
  | [] => none

/-- The two sides of the first occurrence of a character. -/
def splitAt? (mark : Char) (text : List Char) : Option (List Char × List Char) :=
  match text.dropWhile (· ≠ mark) with
  | _ :: right => some (text.takeWhile (· ≠ mark), right)
  | [] => none

/-- A property as it is spelled in braces: a name, or a property with a value. -/
def read (text : List Char) : Option PropertyQuery :=
  match splitUnequal text with
  | some (property, value) => (ofValue? property value).map (⟨·, true⟩)
  | none =>
    match (splitAt? ':' text).or (splitAt? '=' text) with
    | some (property, value) => (ofValue? property value).map (⟨·, false⟩)
    | none => (ofName? text).map (⟨·, false⟩)

end PropertyQuery

end PushBench
