import FieldRules.Error
import FieldRules.Json.Basic

/-!
# The summary

The summary lists the fields that are invalid, each with its message, in the
order in which they became so.  A field has at most one entry: a new one takes
the place of the old one.
-/

namespace FieldRules

/-- What is wrong with one field. -/
structure SummaryEntry where
  field : String
  form : Option String
  friendlyName : String
  message : String
  deriving DecidableEq, Repr

/-- The entry as JSON. -/
def SummaryEntry.toJson (entry : SummaryEntry) : Json :=
  .object [("fieldName", .string entry.field), ("formName", .stringOrNull entry.form),
    ("friendlyName", .string entry.friendlyName), ("message", .string entry.message)]

/-- The entries of the invalid fields. -/
structure Summary where
  entries : List SummaryEntry := []
  deriving DecidableEq, Repr

namespace Summary

/-- The entries with one more, which replaces the entry of its field. -/
def putEntry (entry : SummaryEntry) : List SummaryEntry → List SummaryEntry
  | [] => [entry]
  | head :: rest =>
    if head.field = entry.field then entry :: rest else head :: putEntry entry rest

/-- The summary with an entry. -/
def put (summary : Summary) (entry : SummaryEntry) : Summary :=
  ⟨putEntry entry summary.entries⟩

/-- The summary with an entry, which has to name its field. -/
def add (summary : Summary) (entry : SummaryEntry) : Except ConfigError Summary :=
  if entry.field.isEmpty then .error .missingFieldName else .ok (summary.put entry)

/-- The entry of a field. -/
def get? (summary : Summary) (field : String) : Option SummaryEntry :=
  summary.entries.find? (·.field = field)

/-- The summary without the entry of a field. -/
def remove (summary : Summary) (field : String) : Summary :=
  ⟨summary.entries.filter (·.field ≠ field)⟩

/-- The entries of a form. -/
def byForm (summary : Summary) (form : String) : List SummaryEntry :=
  summary.entries.filter (·.form = some form)

/-- The summary without the entries of a form, and how many these were. -/
def clearForm (summary : Summary) (form : String) : Summary × Nat :=
  let kept := summary.entries.filter (·.form ≠ some form)
  (⟨kept⟩, summary.entries.length - kept.length)

/-- The summary as JSON. -/
def toJson (summary : Summary) : Json :=
  .object [("entries", .array (summary.entries.map (·.toJson)))]

end Summary

end FieldRules
