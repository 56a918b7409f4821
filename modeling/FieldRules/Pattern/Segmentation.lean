import FieldRules.Pattern.Derived
import FieldRules.Unicode.Script
import FieldRules.Unicode.Boundary

/-!
# Classes of segmentation

The classes of characters that decide where a text is cut into graphemes, words
and sentences.  Each list pairs the names of its classes with their members;
characters outside of all of them have no class in the list.
-/

namespace FieldRules.Pattern

open Unicode

/-- Sets of characters with their names. -/
abbrev NamedSets := List (List String × CharSet)

namespace Segmentation

/-- The skin tones, which follow a picture. -/
def skinTone : CharSet := .table Emoji.modifier

/-- The joiner of pictures. -/
def joiner : CharSet := .table [(0x200D, 0x200D)]

/-! ## Graphemes -/

/-- Characters that belong to the one before them, the joiner aside. -/
def graphemeExtend : CharSet := .diff (.union .graphemeExtend skinTone) joiner

/-- Characters that stand alone: controls and what nobody sees. -/
def graphemeControl : CharSet :=
  .diff
    (.unionOf [.table Category.lineSeparator, .table Category.paragraphSeparator,
      .table Category.control, .table Category.format,
      .inter .unassigned (.table Property.defaultIgnorable)])
    (.unionOf [.single '\r', .single '\n', .table Property.joinControl,
      .table Property.prependedMark, .graphemeExtend])

/-- Marks that take up width behind their base. -/
def spacingMark : CharSet :=
  .diff (.union (.table Category.spacingMark) (.table Boundary.spacingVowel))
    (.union graphemeExtend (.table Boundary.notSpacing))

/-- The classes of graphemes. -/
def graphemeClasses : NamedSets :=
  [(["control", "cn"], graphemeControl),
    (["cr"], .single '\r'),
    (["extend", "ex"], graphemeExtend),
    (["l"], .table Boundary.leadingJamo),
    (["lf"], .single '\n'),
    (["lv"], .table Boundary.openSyllable),
    (["lvt"], .diff (.table Boundary.syllable) (.table Boundary.openSyllable)),
    (["prepend", "pp"], .table Boundary.prepend),
    (["regionalindicator", "ri"], .table Property.regionalIndicator),
    (["spacingmark", "sm"], spacingMark),
    (["t"], .table Boundary.trailingJamo),
    (["v"], .table Boundary.vowelJamo),
    (["zwj"], joiner)]

/-! ## Words -/

/-- Characters that belong to the one before them in a word. -/
def wordExtend : CharSet := .union graphemeExtend (.table Category.spacingMark)

/-- Formatting characters, which do not part a word. -/
def wordFormat : CharSet :=
  .diff (.table Category.format)
    (.unionOf [.table Property.joinControl, .table Boundary.numberSign, graphemeExtend,
      .table [(0x70F, 0x70F), (0x200B, 0x200B)]])

/-- Hebrew letters, which go together with quotation marks. -/
def hebrewLetter : CharSet :=
  .inter (.table Script.hebrew.members) (.table Category.otherLetter)

/-- The letters of words that are not found by a dictionary. -/
def wordLetter : CharSet :=
  .diff (.union (.table Property.alphabetic) (.table Boundary.letterLike))
    (.unionOf [.table Property.ideographic, .table Boundary.katakana,
      .table Boundary.complexContext, .table Script.hiragana.members, wordExtend,
      hebrewLetter])

/-- Digits and what stands for them. -/
def numeric : CharSet :=
  .unionOf [.digit, .table Boundary.numberSign, .table [(0x66B, 0x66B), (0x19DA, 0x19DA)]]

/-- The classes of words. -/
def wordClasses : NamedSets :=
  [(["aletter", "le"], wordLetter),
    (["cr"], .single '\r'),
    (["doublequote", "dq"], .single '"'),
    (["extend"], wordExtend),
    (["extendnumlet", "ex"], .table Boundary.extendNumberLetter),
    (["format", "fo"], wordFormat),
    (["hebrewletter", "hl"], hebrewLetter),
    (["katakana", "ka"], .table Boundary.katakana),
    (["lf"], .single '\n'),
    (["midletter", "ml"], .table Boundary.midLetter),
    (["midnum", "mn"], .table Boundary.midNumber),
    (["midnumlet", "mb"], .table Boundary.midNumberLetter),
    (["newline", "nl"], .table Boundary.newline),
    (["numeric", "nu"], numeric),
    (["regionalindicator", "ri"], .table Property.regionalIndicator),
    (["singlequote", "sq"], .single '\''),
    (["wsegspace"], .table Boundary.breakingSpace),
    (["zwj"], joiner)]

/-! ## Sentences -/

/-- Characters that belong to the one before them in a sentence. -/
def sentenceExtend : CharSet :=
  .unionOf [.graphemeExtend, .table Category.spacingMark, joiner]

/-- Formatting characters, which do not part a sentence. -/
def sentenceFormat : CharSet :=
  .diff (.table Category.format)
    (.unionOf [.table Property.joinControl, .table Boundary.numberSign, sentenceExtend])

/-- Small characters, after which a sentence goes on. -/
def sentenceLower : CharSet :=
  .diff .lowercase (.union .graphemeExtend (.table Boundary.georgianLetter))

/-- Capital characters, which may start a sentence. -/
def sentenceUpper : CharSet :=
  .diff (.union .uppercase (.table Category.titlecaseLetter)) (.table Boundary.georgianCapital)

/-- Letters without case. -/
def sentenceLetter : CharSet :=
  .diff (.union (.table Property.alphabetic) (.table [(0x5F3, 0x5F3)]))
    (.unionOf [sentenceLower, sentenceUpper, sentenceExtend])

/-- Brackets and quotation marks, which may follow the end of a sentence. -/
def sentenceClose : CharSet := .union .brackets (.table Boundary.quoteLike)

/-- The classes of sentences. -/
def sentenceClasses : NamedSets :=
  [(["aterm", "at"], .table Boundary.fullStop),
    (["close", "cl"], sentenceClose),
    (["cr"], .single '\r'),
    (["extend", "ex"], sentenceExtend),
    (["format", "fo"], sentenceFormat),
    (["lf"], .single '\n'),
    (["lower", "lo"], sentenceLower),
    (["numeric", "nu"], .union numeric (.table [(0x66C, 0x66C)])),
    (["oletter", "le"], sentenceLetter),
    (["scontinue", "sc"], .table Boundary.sentenceContinue),
    (["sep", "se"], .table Boundary.separator),
    (["sp"], .table Boundary.sentenceSpace),
    (["sterm", "st"], .diff (.table Property.sentenceTerminal) (.table Boundary.fullStop)),
    (["upper", "up"], sentenceUpper)]

end Segmentation

end FieldRules.Pattern
