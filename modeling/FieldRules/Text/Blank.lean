import FieldRules.Unicode.Property

/-!
# White space around text

Blank characters are those with the White_Space property.  `trim` drops them
at both ends.
-/

namespace FieldRules.Text

/-- White space of any kind, line breaks and no-break spaces included. -/
def isBlank (c : Char) : Bool :=
  Unicode.Property.whiteSpace.contains c.toNat

/-- The text without the blanks at its end. -/
def trimEnd (cs : List Char) : List Char :=
  (cs.reverse.dropWhile isBlank).reverse

/-- The text without the blanks at either end. -/
def trim (cs : List Char) : List Char :=
  trimEnd (cs.dropWhile isBlank)

/-- `trim` on strings. -/
def trimmed (s : String) : String :=
  String.ofList (trim s.toList)

end FieldRules.Text
