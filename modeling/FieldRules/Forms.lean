import FieldRules.Assoc

/-!
# Forms

A form is a group of fields in the order in which they entered it, and a field
is in at most one form.  Both directions are kept: the fields of each form, and
the form of each field.  A form without fields is not listed.
-/

namespace FieldRules

/-- The forms and the fields in them. -/
structure Forms where
  groups : Assoc (List String) := []
  homes : Assoc String := []
  deriving DecidableEq, Repr

namespace Forms

/-- The groups with a field at the end of one of them. -/
def enter (form field : String) : Assoc (List String) → Assoc (List String)
  | [] => [(form, [field])]
  | (name, fields) :: rest =>
    if name = form then (name, fields ++ [field]) :: rest
    else (name, fields) :: enter form field rest

/-- The groups without a field of one of them. -/
def leave (form field : String) : Assoc (List String) → Assoc (List String)
  | [] => []
  | (name, fields) :: rest =>
    if name = form then
      match fields.filter (· ≠ field) with
      | [] => rest
      | others => (name, others) :: rest
    else (name, fields) :: leave form field rest

/-- The form of a field. -/
def formOf? (forms : Forms) (field : String) : Option String :=
  forms.homes.find? field

/-- The fields of a form. -/
def fields (forms : Forms) (form : String) : List String :=
  (forms.groups.find? form).getD []

/-- The names of the forms. -/
def names (forms : Forms) : List String :=
  forms.groups.map (·.1)

/-- Whether there is a form of this name. -/
def contains (forms : Forms) (form : String) : Bool :=
  forms.groups.has form

/-- The forms without a field. -/
def remove (forms : Forms) (field : String) : Forms :=
  match forms.formOf? field with
  | none => forms
  | some form => ⟨leave form field forms.groups, forms.homes.drop field⟩

/-- The forms with a field at the end of a form; a field that is in the form
already keeps its place. -/
def insert (forms : Forms) (form field : String) : Forms :=
  if forms.formOf? field = some form then forms
  else
    let others := forms.remove field
    ⟨enter form field others.groups, others.homes.put field form⟩

end Forms

end FieldRules
