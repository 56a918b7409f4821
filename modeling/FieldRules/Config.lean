import FieldRules.Json.Basic
import FieldRules.Requirement

/-!
# Settings

`EngineConfig` holds the settings for all fields and `FieldOptions` those of
one field, which come first where both speak.  Both can be read from JSON: an
object with some of the keys, or an array of the values in the order of the
keys.  A key that is given twice, also under its other name, is refused; keys
that are not known are ignored.
-/

namespace FieldRules

/-! ## The settings -/

/-- Settings for all fields.  Delays are in milliseconds. -/
structure EngineConfig where
  debounce : Nat := 1000
  separator : String := " "
  validateOnEmpty : Bool := false
  requirement : Requirement := .all
  preValidate : Bool := false
  onlyLastMessage : Bool := false
  deriving DecidableEq, Repr

/-- The kinds of fields: a choice is made at once, so it is not debounced. -/
inductive FieldKind where
  | text
  | choice
  deriving DecidableEq, Repr

/-- Settings of one field. -/
structure FieldOptions where
  debounce : Option Nat := none
  validateOnEmpty : Option Bool := none
  requirement : Option Requirement := none
  friendlyName : Option String := none
  errorTarget : Option String := none
  kind : FieldKind := .text
  deriving DecidableEq, Repr

/-- The delay between a change of the field and its evaluation. -/
def FieldOptions.effectiveDebounce (options : FieldOptions) (config : EngineConfig) : Nat :=
  match options.kind with
  | .choice => 0
  | .text => options.debounce.getD config.debounce

/-! ## Reading records -/

namespace Json

/-- The values of a record, in the order of its keys, each key with its other
names.  A value is missing where its key is not given.  The result is missing
if the value is no record or gives a key twice. -/
def record? (keys : List (List String)) : Json → Option (List (Option Json))
  | array items =>
    if items.length ≤ keys.length then
      some (items.map some ++ List.replicate (keys.length - items.length) none)
    else
      none
  | object entries =>
    keys.mapM fun names =>
      match entries.filter (·.1 ∈ names) with
      | [] => some none
      | [(_, value)] => some (some value)
      | _ => none
  | _ => none

/-- A value that may be left out, read by `read` where it is given. -/
def orDefault {α : Type} (value : Option Json) (default : α) (read : Json → Option α) :
    Option α :=
  match value with
  | none => some default
  | some value => read value

/-- A value that may be null. -/
def orNull {α : Type} (read : Json → Option α) (value : Json) : Option (Option α) :=
  match value with
  | null => some none
  | value => (read value).map some

/-- A requirement is a positive number or a text. -/
def requirement? : Json → Option Requirement
  | number n => n.natural?.bind fun n => (Requirement.ofNat n).toOption
  | string s => (Requirement.parse s).toOption
  | _ => none

/-- A kind of field is given by its name, or by its name with null. -/
def fieldKind? : Json → Option FieldKind
  | string "text" | object [("text", null)] => some .text
  | string "choice" | object [("choice", null)] => some .choice
  | _ => none

/-- A table of strings; the last entry of a key counts. -/
def stringMap? : Json → Option (List (String × String))
  | object entries => entries.mapM fun (key, value) => value.string?.map fun s => (key, s)
  | _ => none

end Json

/-- The names of the debounce delay. -/
def debounceKeys : List String := ["debounce", "typingLimit"]

/-- The settings for all fields that a JSON value gives. -/
def EngineConfig.ofJson? (value : Json) : Option EngineConfig := do
  let values ← value.record? [debounceKeys, ["messageSeparator"], ["validateOnEmpty"],
    ["validRequireHowMany"], ["preValidateFormElements"], ["displayOnlyLastErrorMsg"]]
  let value (i : Nat) := values.getD i none
  let base : EngineConfig := {}
  return {
    debounce := ← Json.orDefault (value 0) base.debounce Json.natural?
    separator := ← Json.orDefault (value 1) base.separator Json.string?
    validateOnEmpty := ← Json.orDefault (value 2) base.validateOnEmpty Json.bool?
    requirement := ← Json.orDefault (value 3) base.requirement Json.requirement?
    preValidate := ← Json.orDefault (value 4) base.preValidate Json.bool?
    onlyLastMessage := ← Json.orDefault (value 5) base.onlyLastMessage Json.bool? }

/-- The settings of one field that a JSON value gives. -/
def FieldOptions.ofJson? (value : Json) : Option FieldOptions := do
  let values ← value.record? [debounceKeys, ["validateOnEmpty"], ["validRequireHowMany"],
    ["friendlyName"], ["validationErrorTo"], ["kind"]]
  let value (i : Nat) := values.getD i none
  return {
    debounce := ← Json.orDefault (value 0) none (Json.orNull Json.natural?)
    validateOnEmpty := ← Json.orDefault (value 1) none (Json.orNull Json.bool?)
    requirement := ← Json.orDefault (value 2) none (Json.orNull Json.requirement?)
    friendlyName := ← Json.orDefault (value 3) none (Json.orNull Json.string?)
    errorTarget := ← Json.orDefault (value 4) none (Json.orNull Json.string?)
    kind := ← Json.orDefault (value 5) .text Json.fieldKind? }

end FieldRules
