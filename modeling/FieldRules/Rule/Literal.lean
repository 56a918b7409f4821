import FieldRules.Error
import FieldRules.Rule.Clause
import FieldRules.Text.Blank
import FieldRules.Text.Split

/-!
# Patterns written out in a chain

A pattern may contain the bar that separates clauses, so it is lifted out of
the chain before the chain is cut.  There are two spellings:

* `pattern=/…/flags` or `regex=/…/flags`, with a message text behind `:alt=`
  or without one;
* `regex:text:=…:regex`, which is deprecated.

`extract` finds the clause, which must stand at the start of the chain or
behind a bar, and leaves the bare keyword `pattern` in its place.
-/

namespace FieldRules.Rule.Literal

open Text

/-- The openings of the modern spelling. -/
def modernOpenings : List (List Char) :=
  ["pattern=/".toList, "regex=/".toList]

/-- The opening of the deprecated spelling. -/
def deprecatedOpening : List Char := "regex:".toList

/-- The letters that may stand behind the closing slash. -/
def flagLetters : List Char := "gimsuy".toList

/-- The marker of a message text. -/
def altMarker : List Char := "alt=".toList

/-- What is left in place of the clause. -/
def placeholder : List Char := "pattern".toList

/-! ## Finding the clause -/

/-- Whether a clause starts behind a character, given whether one started before it. -/
def startsBehind (atStart : Bool) (c : Char) : Bool :=
  c = '|' || (atStart && isBlank c)

/-- The first opening that stands at the start of a clause: the text before it,
the opening, and the text behind it. -/
def findOpening (openings : List (List Char)) :
    (atStart : Bool) → List Char → Option (List Char × List Char × List Char)
  | _, [] => none
  | atStart, c :: rest =>
    let here := if atStart then
        openings.findSome? fun opening =>
          (dropLead? opening (c :: rest)).map fun after => ([], opening, after)
      else
        none
    here.or <| (findOpening openings (startsBehind atStart c) rest).map
      fun (before, found) => (c :: before, found)

/-- Whether a text has a clause of either spelling. -/
def hasLiteral (text : List Char) : Bool :=
  (findOpening (deprecatedOpening :: modernOpenings) true text).isSome

/-! ## The modern spelling -/

/-- Whether a pattern may end before the text: at the end of the chain, at a
bar, or at the marker of a message text. -/
def mayEnd : List Char → Bool
  | [] => true
  | '|' :: _ => true
  | ':' :: rest => altMarker.isPrefixOf rest
  | _ => false

/-- The pattern, its flags and the text behind them.  The pattern is not empty
and ends at the first slash behind whose flags it may end. -/
def splitBody : (first : Bool) → List Char → Option (List Char × List Char × List Char)
  | _, [] => none
  | first, c :: rest =>
    let flags := rest.takeWhile (· ∈ flagLetters)
    let after := rest.dropWhile (· ∈ flagLetters)
    if c = '/' && !first && mayEnd after then
      some ([], flags, after)
    else
      (splitBody false rest).map fun (pattern, found) => (c :: pattern, found)

/-- The message text at the start of a text, up to the next bar, and the rest. -/
def splitAlt (text : List Char) : Option (List Char) × List Char :=
  match dropLead? (':' :: altMarker) text with
  | some rest => (some (rest.takeWhile (· ≠ '|')), rest.dropWhile (· ≠ '|'))
  | none => (none, text)

/-- The pattern behind an opening of the modern spelling, and the rest of the chain. -/
def readModern (opening body : List Char) :
    Except LiteralFault (LiteralPattern × List Char) :=
  match splitBody true body with
  | none => .error (.unclosed (String.ofList (opening ++ body)))
  | some (pattern, flags, after) =>
    let (alt, rest) := splitAlt after
    .ok (⟨String.ofList pattern, String.ofList flags, alt.map String.ofList⟩, rest)

/-! ## The deprecated spelling -/

/-- The text before the closing `:regex`, which ends the chain or stands before
a bar, and the rest of the chain. -/
def splitClosing : List Char → Option (List Char × List Char)
  | [] => none
  | c :: rest =>
    match dropLead? ":regex".toList (c :: rest) with
    | some [] => some ([], [])
    | some ('|' :: after) => some ([], '|' :: after)
    | _ => (splitClosing rest).map fun (before, after) => (c :: before, after)

/-- The pattern behind the opening of the deprecated spelling, and the rest of the chain. -/
def readDeprecated (body : List Char) :
    Except LiteralFault (LiteralPattern × List Char) :=
  match splitAt? ":=".toList body with
  | none => .error .missingAssignment
  | some (text, rest) =>
    match splitClosing rest with
    | none => .error .missingClosing
    | some (pattern, rest) =>
      if pattern.isEmpty then .error .emptyPattern
      else
        let text := trim text
        let alt := if text.isEmpty then none else some (String.ofList text)
        .ok (⟨String.ofList pattern, "", alt⟩, rest)

/-! ## Both -/

/-- The clause of a pattern, if there is one: the chain before it, the pattern,
and the chain behind it.  The modern spelling is looked for first. -/
def find? (chain : List Char) :
    Except LiteralFault (Option (List Char × LiteralPattern × List Char)) :=
  match findOpening modernOpenings true chain with
  | some (before, opening, body) =>
    (readModern opening body).map fun (literal, rest) => some (before, literal, rest)
  | none =>
    match findOpening [deprecatedOpening] true chain with
    | some (before, _, body) =>
      (readDeprecated body).map fun (literal, rest) => some (before, literal, rest)
    | none => .ok none

/-- The chain with the keyword in place of the pattern, and the pattern.  A
second pattern is refused. -/
def extract (chain : List Char) : Except LiteralFault (List Char × Option LiteralPattern) :=
  match find? chain with
  | .error fault => .error fault
  | .ok none => .ok (chain, none)
  | .ok (some (before, literal, rest)) =>
    if hasLiteral rest then .error .second
    else .ok (before ++ placeholder ++ rest, some literal)

end FieldRules.Rule.Literal
