import FieldRules.Pattern.CharSet
import FieldRules.Unicode.CaseChange
import FieldRules.Unicode.Emoji
import FieldRules.Unicode.Other

/-!
# Derived properties

The properties of characters that follow from other ones: cased letters,
identifiers, the parts of graphemes, and the characters that a conversion of
case changes.
-/

namespace FieldRules.Pattern

open Unicode

namespace CharSet

/-! ## Categories -/

/-- Numerals of any kind. -/
def number : CharSet :=
  unionOf [digit, table Category.letterNumber, table Category.otherNumber]

/-- Brackets and quotation marks that open or close something. -/
def brackets : CharSet :=
  unionOf [table Category.openPunctuation, table Category.closePunctuation,
    table Category.initialPunctuation, table Category.finalPunctuation]

/-- Punctuation of any kind. -/
def punctuation : CharSet :=
  unionOf [table Category.connectorPunctuation, table Category.dashPunctuation, brackets,
    table Category.otherPunctuation]

/-- Symbols of any kind. -/
def symbol : CharSet :=
  unionOf [table Category.mathSymbol, table Category.currencySymbol,
    table Category.modifierSymbol, table Category.otherSymbol]

/-- Spaces and separators of lines and paragraphs. -/
def separator : CharSet :=
  unionOf [table Category.spaceSeparator, table Category.lineSeparator,
    table Category.paragraphSeparator]

/-- Characters with a shape or a width. -/
def visible : CharSet :=
  unionOf [letter, mark, number, punctuation, symbol, separator]

/-- The code points that have been given a use. -/
def assigned : CharSet :=
  unionOf [visible, table Category.control, table Category.format, table Category.privateUse]

/-- The code points that have not. -/
def unassigned : CharSet := compl assigned

/-! ## Case -/

/-- Small letters and characters used as such. -/
def lowercase : CharSet := union (table Category.lowercaseLetter) (table Other.lowercase)

/-- Capital letters and characters used as such. -/
def uppercase : CharSet := union (table Category.uppercaseLetter) (table Other.uppercase)

/-- Small, capital and titlecase characters. -/
def cased : CharSet := unionOf [lowercase, uppercase, table Category.titlecaseLetter]

/-- Characters that are looked past where the case of a word is decided. -/
def caseIgnorable : CharSet :=
  unionOf [table Category.nonspacingMark, table Category.enclosingMark, table Category.format,
    table Category.modifierLetter, table Category.modifierSymbol, table Other.caseIgnorable]

/-- Characters that full case folding changes. -/
def changesWhenFolded : CharSet :=
  diff (union (table CaseFold.sources) (table CaseChange.folding)) (table CaseChange.notFolding)

/-- Characters with another small form. -/
def changesWhenLowered : CharSet :=
  diff (union (table CaseFold.sources) (table CaseChange.lowering))
    (table CaseChange.notLowering)

/-- Characters with another capital form. -/
def changesWhenRaised : CharSet :=
  union (diff (union (table CaseFold.sources) (table CaseFold.targets)) changesWhenLowered)
    (table CaseChange.raising)

/-- Characters with another titlecase form. -/
def changesWhenTitled : CharSet :=
  diff (union changesWhenRaised (table CaseChange.titling)) (table CaseChange.notTitling)

/-- Characters with another form in some case. -/
def changesWhenMapped : CharSet :=
  unionOf [changesWhenLowered, changesWhenRaised, changesWhenTitled]

/-! ## Letters and symbols -/

/-- Alphabetic characters that are neither letters nor numerals. -/
def otherAlphabetic : CharSet :=
  diff (table Property.alphabetic) (union letter (table Category.letterNumber))

/-- Mathematical characters of other categories. -/
def otherMath : CharSet := diff (table Property.math) (table Category.mathSymbol)

/-- The code points that will never be characters. -/
def noncharacter : CharSet :=
  table ((0xFDD0, 0xFDEF) ::
    (List.range 17).map fun plane => (0x10000 * plane + 0xFFFE, 0x10000 * plane + 0xFFFF))

/-! ## Identifiers -/

/-- Characters with a fixed place in the syntax of programs. -/
def programSyntax : CharSet :=
  union (table Property.patternSyntax) (table Property.patternWhiteSpace)

/-- Characters that may start an identifier. -/
def identifierStart : CharSet :=
  diff (unionOf [letter, table Category.letterNumber, table Other.identifierStart])
    programSyntax

/-- Characters that may stand in an identifier. -/
def identifierContinue : CharSet :=
  diff (unionOf [identifierStart, table Category.nonspacingMark, table Category.spacingMark,
    digit, table Category.connectorPunctuation, table Other.identifierContinue]) programSyntax

/-- Starts of identifiers that stay so under compatibility mapping. -/
def stableStart : CharSet := diff identifierStart (table Other.unstableStart)

/-- Parts of identifiers that stay so under compatibility mapping. -/
def stableContinue : CharSet := diff identifierContinue (table Other.unstableContinue)

/-! ## Graphemes -/

/-- Characters that belong to the one before them. -/
def graphemeExtend : CharSet :=
  unionOf [table Category.nonspacingMark, table Category.enclosingMark,
    table Other.graphemeExtend]

/-- Characters that others may belong to. -/
def graphemeBase : CharSet := diff visible (unionOf [graphemeExtend,
  table Category.lineSeparator, table Category.paragraphSeparator])

end CharSet

end FieldRules.Pattern
