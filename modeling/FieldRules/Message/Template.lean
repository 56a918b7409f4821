import FieldRules.Text.Split

/-!
# Message templates

A template has places for parameters, each written `:param`.  `fill` puts the
parameters into the places from left to right, in one pass: what it puts in is
not looked at again.  Places without a parameter stay as they are.
-/

namespace FieldRules.Message

open Text

/-- The mark of a place for a parameter. -/
def placeMark : List Char := ":param".toList

/-- The template with its first places filled. -/
def fillChars (template : List Char) : List (List Char) → List Char
  | [] => template
  | param :: params =>
    match splitAt? placeMark template with
    | none => template
    | some (before, after) => before ++ param ++ fillChars after params

/-- The template with its first places filled. -/
def fill (template : String) (params : List String) : String :=
  String.ofList (fillChars template.toList (params.map String.toList))

end FieldRules.Message
