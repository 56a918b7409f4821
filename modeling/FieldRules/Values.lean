import FieldRules.Assoc

/-!
# Values

The values of the fields.  A field may have none, which is not the same as an
empty one.
-/

namespace FieldRules

/-- The values of fields. -/
abbrev Values := Assoc String

namespace Values

/-- The values with a field set to a value, or without a value for it. -/
def set (values : Values) (field : String) (value : Option String) : Values :=
  match value with
  | some value => Assoc.put values field value
  | none => Assoc.drop values field

/-- The values of some of the fields. -/
def subset (values : Values) : List String → Values
  | [] => []
  | field :: rest =>
    match Assoc.find? values field with
    | some value => Assoc.put (subset values rest) field value
    | none => subset values rest

end Values

end FieldRules
