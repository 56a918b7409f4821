import FieldRules.Context.Edit
import FieldRules.Json.Reader

/-!
# Form definitions

A definition lists fields with their rules and values, together with settings
for all of them and with messages that replace the English ones.  It is read
from JSON; only the fields themselves, their names and their rules have to be
given.
-/

namespace FieldRules

/-- The fields of some forms, and how to check them. -/
structure Definition where
  config : EngineConfig := {}
  messages : List (String × String) := []
  fields : List Registration
  deriving DecidableEq, Repr

/-- The field that a JSON value describes. -/
def Registration.ofJson? (value : Json) : Option Registration := do
  let values ← value.record? [["name"], ["form"], ["rules"], ["options"], ["value"]]
  let value (i : Nat) := values.getD i none
  return {
    name := ← (value 0).bind Json.string?
    form := ← Json.orDefault (value 1) none (Json.orNull Json.string?)
    rules := ← (value 2).bind Json.string?
    options := ← Json.orDefault (value 3) {} FieldOptions.ofJson?
    value := ← Json.orDefault (value 4) none (Json.orNull Json.string?) }

namespace Definition

/-- The definition that a JSON value describes. -/
def ofJson? (value : Json) : Option Definition := do
  let values ← value.record? [["config"], ["messages"], ["fields"]]
  let value (i : Nat) := values.getD i none
  return {
    config := ← Json.orDefault (value 0) {} EngineConfig.ofJson?
    messages := ← Json.orDefault (value 1) [] Json.stringMap?
    fields := ← match value 2 with
      | some (.array items) => items.mapM Registration.ofJson?
      | _ => none }

/-- The definition that a text holds. -/
def parse? (text : String) : Option Definition :=
  (Json.parse? text).bind ofJson?

/-- The English messages with those of the definition. -/
def table (definition : Definition) : Message.Table :=
  Message.english.withMessages definition.messages

/-- The fields that are in no form. -/
def loose (definition : Definition) : List String :=
  (definition.fields.filter (·.form.isNone)).map (·.name)

/-- A context without fields for the definition. -/
def start (definition : Definition) : Context :=
  .start definition.table.translator definition.config []

/-- The context with the fields registered in turn, up to the first error. -/
def enroll : Context → List Registration → Except ConfigError Context
  | c, [] => .ok c
  | c, field :: rest =>
    match c.register field with
    | (c, .ok ()) => enroll c rest
    | (_, .error e) => .error e

/-- A context with the fields of the definition. -/
def context (definition : Definition) : Except ConfigError Context :=
  enroll definition.start definition.fields

end Definition

end FieldRules
