/-!
# Spellings of keywords

A keyword may be written in camel case or with low lines between its words.
`snakeCase` turns the first spelling into the second.  A capital at the start
is kept, so keywords stay sensitive to case.
-/

namespace FieldRules.Rule

/-- Whether the character is one of the 26 capitals. -/
def isCapital (c : Char) : Bool :=
  'A' ≤ c && c ≤ 'Z'

/-- The rest of a keyword behind the character `last` of the result. -/
def snakeTail (last : Char) : List Char → List Char
  | [] => []
  | c :: rest =>
    if isCapital c then
      if last = '_' then c.toLower :: snakeTail c.toLower rest
      else '_' :: c.toLower :: snakeTail c.toLower rest
    else
      c :: snakeTail c rest

/-- The keyword with low lines in front of its inner capitals, which become small. -/
def snakeCase : List Char → List Char
  | [] => []
  | c :: rest => c :: snakeTail c rest

/-- `snakeCase` on strings. -/
def normalize (keyword : String) : String :=
  String.ofList (snakeCase keyword.toList)

end FieldRules.Rule
