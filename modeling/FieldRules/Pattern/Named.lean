import FieldRules.Pattern.Segmentation
import FieldRules.Pattern.Syntax
import FieldRules.Unicode.Age

/-!
# Classes by name

The names under which a pattern may ask for a class of characters: binary
properties, general categories and scripts by themselves, and the values of
some other properties behind the name of the property.  Case, spaces, hyphens
and low lines do not matter in a name, nor does a leading `is`.
-/

namespace FieldRules.Pattern

open Unicode

/-- The general categories and their unions, with their names. -/
def categoryNames : NamedSets :=
  let upper := CharSet.table Category.uppercaseLetter
  let lower := CharSet.table Category.lowercaseLetter
  let title := CharSet.table Category.titlecaseLetter
  [(["any"], .all),
    (["assigned"], .assigned),
    (["ascii"], .ascii),
    (["c", "other"], .compl .visible),
    (["cc", "control", "cntrl"], .table Category.control),
    (["cf", "format"], .table Category.format),
    (["cn", "unassigned"], .unassigned),
    (["co", "privateuse"], .table Category.privateUse),
    (["l", "letter"], .letter),
    (["lc", "casedletter"], .unionOf [upper, lower, title]),
    (["ll", "lowercaseletter"], lower),
    (["lm", "modifierletter"], .table Category.modifierLetter),
    (["lo", "otherletter"], .table Category.otherLetter),
    (["lt", "titlecaseletter"], title),
    (["lu", "uppercaseletter"], upper),
    (["m", "mark", "combiningmark"], .mark),
    (["mc", "spacingmark"], .table Category.spacingMark),
    (["me", "enclosingmark"], .table Category.enclosingMark),
    (["mn", "nonspacingmark"], .table Category.nonspacingMark),
    (["n", "number"], .number),
    (["nd", "decimalnumber", "digit"], .digit),
    (["nl", "letternumber"], .table Category.letterNumber),
    (["no", "othernumber"], .table Category.otherNumber),
    (["p", "punctuation", "punct"], .punctuation),
    (["pc", "connectorpunctuation"], .table Category.connectorPunctuation),
    (["pd", "dashpunctuation"], .table Category.dashPunctuation),
    (["pe", "closepunctuation"], .table Category.closePunctuation),
    (["pf", "finalpunctuation"], .table Category.finalPunctuation),
    (["pi", "initialpunctuation"], .table Category.initialPunctuation),
    (["po", "otherpunctuation"], .table Category.otherPunctuation),
    (["ps", "openpunctuation"], .table Category.openPunctuation),
    (["s", "symbol"], .symbol),
    (["sc", "currencysymbol"], .table Category.currencySymbol),
    (["sk", "modifiersymbol"], .table Category.modifierSymbol),
    (["sm", "mathsymbol"], .table Category.mathSymbol),
    (["so", "othersymbol"], .table Category.otherSymbol),
    (["z", "separator"], .separator),
    (["zl", "lineseparator"], .table Category.lineSeparator),
    (["zp", "paragraphseparator"], .table Category.paragraphSeparator),
    (["zs", "spaceseparator"], .table Category.spaceSeparator)]

/-- The binary properties, with their names. -/
def propertyNames : NamedSets :=
  [(["alphabetic", "alpha"], .table Property.alphabetic),
    (["asciihexdigit", "ahex"], .table Property.asciiHexDigit),
    (["bidicontrol", "bidic"], .table Property.bidiControl),
    (["caseignorable", "ci"], .caseIgnorable),
    (["cased"], .cased),
    (["changeswhencasefolded", "cwcf"], .changesWhenFolded),
    (["changeswhencasemapped", "cwcm"], .changesWhenMapped),
    (["changeswhenlowercased", "cwl"], .changesWhenLowered),
    (["changeswhentitlecased", "cwt"], .changesWhenTitled),
    (["changeswhenuppercased", "cwu"], .changesWhenRaised),
    (["dash"], .table Property.dash),
    (["defaultignorablecodepoint", "di"], .table Property.defaultIgnorable),
    (["deprecated", "dep"], .table Property.deprecated),
    (["diacritic", "dia"], .table Property.diacritic),
    (["emoji"], .table Emoji.emoji),
    (["emojicomponent", "ecomp"], .table Emoji.component),
    (["emojimodifier", "emod"], .table Emoji.modifier),
    (["emojimodifierbase", "ebase"], .table Emoji.modifierBase),
    (["emojipresentation", "epres"], .table Emoji.presentation),
    (["extendedpictographic", "extpict"], .table Emoji.pictographic),
    (["extender", "ext"], .table Property.extender),
    (["graphemebase", "grbase"], .graphemeBase),
    (["graphemeextend", "grext"], .graphemeExtend),
    (["graphemelink", "grlink"], .table Property.graphemeLink),
    (["hexdigit", "hex"], .table Property.hexDigit),
    (["hyphen"], .table Property.hyphen),
    (["idcompatmathcontinue"], .table Property.mathContinue),
    (["idcompatmathstart"], .table Property.mathStart),
    (["idcontinue", "idc"], .identifierContinue),
    (["idstart", "ids"], .identifierStart),
    (["idsbinaryoperator", "idsb"], .table Property.descriptionBinary),
    (["idstrinaryoperator", "idst"], .table Property.descriptionTrinary),
    (["idsunaryoperator", "idsu"], .table Property.descriptionUnary),
    (["ideographic", "ideo"], .table Property.ideographic),
    (["joincontrol", "joinc"], .table Property.joinControl),
    (["logicalorderexception", "loe"], .table Property.logicalOrderException),
    (["lowercase", "lower"], .lowercase),
    (["math"], .table Property.math),
    (["modifiercombiningmark", "mcm"], .table Property.modifierCombiningMark),
    (["noncharactercodepoint", "nchar"], .noncharacter),
    (["otheralphabetic", "oalpha"], .otherAlphabetic),
    (["otherdefaultignorablecodepoint", "odi"], .table Other.defaultIgnorable),
    (["othergraphemeextend", "ogrext"], .table Other.graphemeExtend),
    (["otheridcontinue", "oidc"], .table Other.identifierContinue),
    (["otheridstart", "oids"], .table Other.identifierStart),
    (["otherlowercase", "olower"], .table Other.lowercase),
    (["othermath", "omath"], .otherMath),
    (["otheruppercase", "oupper"], .table Other.uppercase),
    (["patternsyntax", "patsyn"], .table Property.patternSyntax),
    (["patternwhitespace", "patws"], .table Property.patternWhiteSpace),
    (["prependedconcatenationmark", "pcm"], .table Property.prependedMark),
    (["quotationmark", "qmark"], .table Property.quotationMark),
    (["radical"], .table Property.radical),
    (["regionalindicator", "ri"], .table Property.regionalIndicator),
    (["sentenceterminal", "sterm"], .table Property.sentenceTerminal),
    (["softdotted", "sd"], .table Property.softDotted),
    (["terminalpunctuation", "term"], .table Property.terminalPunctuation),
    (["unifiedideograph", "uideo"], .table Property.unifiedIdeograph),
    (["uppercase", "upper"], .uppercase),
    (["variationselector", "vs"], .table Property.variationSelector),
    (["whitespace", "wspace", "space"], .space),
    (["xidcontinue", "xidc"], .stableContinue),
    (["xidstart", "xids"], .stableStart)]

/-- The scripts, with their names. -/
def scriptNames : NamedSets :=
  Script.all.map fun script => (script.names, .table script.members)

/-- The characters that some script borrows. -/
def borrowed : CharSet :=
  .table (Script.all.foldl (fun table script => table.union script.borrowed) [])

/-- The scripts with what they borrow.  A shared character that some script
borrows belongs to the borrowers alone. -/
def scriptExtensionNames : NamedSets :=
  Script.all.map fun script =>
    let members := CharSet.table script.members
    (script.names,
      if script.shared then .diff members borrowed
      else .union members (.table script.borrowed))

/-- The code points that the versions up to and including each one assigned. -/
def agesFrom (before : Ranges) : List Age → NamedSets
  | [] => []
  | age :: rest =>
    let known := before.union age.added
    ([toString age.major ++ "." ++ toString age.minor,
      "v" ++ toString age.major ++ toString age.minor], .table known) :: agesFrom known rest

/-- The versions of Unicode, with their names. -/
def ageNames : NamedSets := agesFrom [] Age.all

/-- A name in lower case, without separators and without a leading `is`. -/
def looseName (name : List Char) : String :=
  let plain (cs : List Char) :=
    (cs.filter fun c => c.toNat < 0x80 && !(c ∈ [' ', '_', '-'])).map Char.toLower
  match name with
  | 'i' :: 's' :: rest | 'I' :: 's' :: rest | 'i' :: 'S' :: rest | 'I' :: 'S' :: rest =>
    if plain rest = ['c'] then "isc" else String.ofList (plain rest)
  | _ => String.ofList (plain name)

/-- The class of a name in a list of names. -/
def findNamed (names : NamedSets) (name : String) : Option CharSet :=
  (names.find? (name ∈ ·.1)).map (·.2)

/-- The class that a bare name asks for. -/
def classOfName (name : List Char) : Option CharSet :=
  let loose := looseName name
  (findNamed propertyNames loose).or
    ((findNamed categoryNames loose).or (findNamed scriptNames loose))

/-- The class that a name and a value ask for. -/
def classOfValue (name value : List Char) : Option CharSet :=
  let wanted := looseName value
  match looseName name with
  | "gc" | "generalcategory" => findNamed categoryNames wanted
  | "sc" | "script" => findNamed scriptNames wanted
  | "scx" | "scriptextensions" => findNamed scriptExtensionNames wanted
  | "age" => findNamed ageNames wanted
  | "gcb" | "graphemeclusterbreak" => findNamed Segmentation.graphemeClasses wanted
  | "wb" | "wordbreak" => findNamed Segmentation.wordClasses wanted
  | "sb" | "sentencebreak" => findNamed Segmentation.sentenceClasses wanted
  | _ => none

end FieldRules.Pattern
