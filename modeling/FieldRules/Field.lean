import FieldRules.Config
import FieldRules.Rule.Compile

/-!
# The state of a field

What is known about a field between evaluations: its rules and settings, the
last value that was evaluated and what came of it, and what of this is shown.
A field shows the result of an evaluation only once it has been touched.
-/

namespace FieldRules

/-- What a field shows. -/
inductive Status where
  | untouched
  | pending
  | awaitingRemote
  | valid
  | invalid
  | cancelled
  deriving DecidableEq, Repr

def Status.label : Status → String
  | untouched => "untouched"
  | pending => "pending"
  | awaitingRemote => "awaiting remote"
  | valid => "valid"
  | invalid => "invalid"
  | cancelled => "cancelled"

/-- Whether the status shows the result of an evaluation. -/
def Status.isResult : Status → Bool
  | valid | invalid | awaitingRemote => true
  | untouched | pending | cancelled => false

/-- The state of a field.  `generation` is the evaluation whose callbacks are
still out. -/
structure FieldState where
  name : String
  form : Option String
  rules : String
  validators : List Validator
  required : Bool
  validateOnEmpty : Bool
  debounce : Nat
  requirement : Requirement
  friendlyName : Option String
  errorTarget : Option String
  lastValue : Option String
  valid : Bool
  message : String
  status : Status
  touched : Bool
  disabled : Bool
  generation : Option Nat
  deriving DecidableEq, Repr

namespace FieldState

/-- A field that has not been evaluated yet. -/
def fresh (name rules : String) (compiled : Rule.Compiled) (options : FieldOptions)
    (config : EngineConfig) : FieldState where
  name := name
  form := none
  rules := rules
  validators := compiled.validators
  required := compiled.required
  validateOnEmpty := options.validateOnEmpty.getD config.validateOnEmpty
  debounce := options.effectiveDebounce config
  requirement := options.requirement.getD config.requirement
  friendlyName := options.friendlyName
  errorTarget := options.errorTarget
  lastValue := none
  valid := true
  message := ""
  status := .untouched
  touched := config.preValidate
  disabled := false
  generation := none

/-- The field with other rules. -/
def withRules (state : FieldState) (rules : String) (compiled : Rule.Compiled) : FieldState :=
  { state with rules, validators := compiled.validators, required := compiled.required }

/-- The field as a valid one. -/
def markValid (state : FieldState) : FieldState :=
  { state with valid := true, message := "" }

/-- The field with a status, which stays hidden if it is a result and the field
has not been touched. -/
def showing (state : FieldState) (status : Status) : FieldState :=
  if state.touched || !status.isResult then { state with status } else state

/-- The field with the result of an evaluation. -/
def record (state : FieldState) (valid : Bool) (message : String) : FieldState :=
  { state with valid, message }.showing (if valid then .valid else .invalid)

/-- The status of a field whose validation resumes. -/
def resumedStatus (state : FieldState) : Status :=
  if state.touched then .pending else .untouched

/-- The field with other rules, under which a validation that had stopped
resumes. -/
def ruled (state : FieldState) (rules : String) (compiled : Rule.Compiled) : FieldState :=
  let state := state.withRules rules compiled
  let resumes := state.status = .cancelled && !state.disabled
  { state with status := if resumes then state.resumedStatus else state.status }

/-- The field whose validation stops; it is valid from then on. -/
def suspended (state : FieldState) : FieldState :=
  { state with status := .cancelled, generation := none }.markValid

/-- The field that is disabled no longer. -/
def enabled (state : FieldState) : FieldState :=
  { state with
    disabled := false
    status := if state.validators.isEmpty then state.status else state.resumedStatus }

/-- The field after a change of its value.  If the field is validated, its
evaluation is still to come. -/
def changed (state : FieldState) : FieldState :=
  { state with
    touched := true
    status := if state.status = .cancelled then .cancelled else .pending }

/-- The field as if nothing had happened to it yet. -/
def renewed (state : FieldState) (touched : Bool) : FieldState :=
  { state with
    touched
    generation := none
    status := if state.status = Status.cancelled then .cancelled else .untouched }.markValid

/-- The field with its result shown, if it is invalid. -/
def revealed (state : FieldState) : FieldState :=
  if state.valid then state
  else
    { state with touched := true }.showing
      (if state.generation.isSome then .awaitingRemote else .invalid)

/-- The fields that the rules compare with. -/
def targets (state : FieldState) : List Target :=
  state.validators.filterMap (·.target?)

/-- The name in messages. -/
def displayName (state : FieldState) : String :=
  state.friendlyName.getD state.name

end FieldState

end FieldRules
