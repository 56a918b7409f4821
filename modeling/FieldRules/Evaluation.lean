import FieldRules.Callback
import FieldRules.Field
import FieldRules.Message.Table

/-!
# Evaluating a field

`Engine.evaluate` runs the validators of a field in order against a value.  It
stops as soon as enough of them have passed; the ones that ask a callback are
only listed, for the callbacks reply later.

`Engine.collect` counts what the callbacks replied, and `Engine.settle` puts
both parts together.
-/

namespace FieldRules

/-! ## Messages -/

namespace Message

/-- The message of a failed validator.  A text of its own is tried as a message
key first and filled in as it stands otherwise. -/
def resolve (translator : Translator) (key : String) (params : List String)
    (alt : Option String) : Except ConfigError String :=
  match alt with
  | some alt =>
    match translator.resolve alt params with
    | .ok text => .ok text
    | .error _ => .ok (fill alt params)
  | none =>
    match translator.resolve key params with
    | .ok text => .ok text
    | .error cause => .error (.untranslatable key cause)

/-- Several messages as one: joined, or only the last of them. -/
def compose (messages : List String) (separator : String) (onlyLast : Bool) : String :=
  if onlyLast then messages.getLast?.getD "" else separator.intercalate messages

end Message

/-! ## Validators on their own -/

namespace Validator

/-- Whether the validator passes, given the value and the values of other
fields; a callback has no answer yet. -/
def passes? (v : Validator) (value : Option String) (others : String → Option String) :
    Option Bool :=
  let text := value.getD ""
  match v.check with
  | .test test => some (test.passes value)
  | .auto length number => some ((chooseShape length number text).test.passes value)
  | .matching target =>
    some (target.operator.holds (compare text ((others target.field).getD "")))
  | .callback _ _ => none

/-- The key of the message if the validator fails on a text. -/
def failureKey (v : Validator) (text : String) : String :=
  match v.check with
  | .auto length number => (chooseShape length number text).key
  | _ => v.key

end Validator

/-! ## Evaluations -/

/-- A callback that still has to be asked, for the validator at a position. -/
structure PendingCheck where
  index : Nat
  kind : CallbackKind
  callback : String
  key : String
  params : List String
  alt : Option String
  deriving DecidableEq, Repr

/-- The result of the validators that need no callback.  A chain that waits for
callbacks is invalid for the time being. -/
structure Evaluation where
  valid : Bool := false
  message : String := ""
  messages : List String := []
  passes : Nat := 0
  target : Nat := 0
  pending : List PendingCheck := []
  dependencies : List Target := []
  skipped : Bool := false
  deriving DecidableEq, Repr

namespace Evaluation

/-- The result where no validator had to run. -/
def skip : Evaluation := { valid := true, skipped := true }

/-- Whether callbacks have to be asked. -/
def isAwaiting (e : Evaluation) : Bool := !e.pending.isEmpty

/-- With one more callback to ask. -/
def addPending (e : Evaluation) (check : PendingCheck) : Evaluation :=
  { e with pending := e.pending ++ [check] }

/-- With the field that a validator has compared with. -/
def addDependency (e : Evaluation) (target : Option Target) : Evaluation :=
  { e with dependencies := e.dependencies ++ target.toList }

/-- With one more pass. -/
def addPass (e : Evaluation) : Evaluation :=
  { e with passes := e.passes + 1 }

/-- With the message of one more failure. -/
def addMessage (e : Evaluation) (message : String) : Evaluation :=
  { e with messages := e.messages ++ [message] }

/-- The check of a validator that asks a callback. -/
def pendingCheck (v : Validator) (index : Nat) (kind : CallbackKind) (name : String) :
    PendingCheck :=
  ⟨index, kind, name, v.key, v.params, v.alt⟩

end Evaluation

/-- What the callbacks of one evaluation replied, counted. -/
structure Verdict where
  passes : Nat
  messages : List String
  deriving DecidableEq, Repr

/-- The final result of an evaluation. -/
structure Settled where
  valid : Bool
  message : String
  deriving DecidableEq, Repr

/-- What evaluations need beside the fields. -/
structure Engine where
  translator : Message.Translator
  separator : String
  onlyLast : Bool

namespace Engine

/-- The engine for a translator and settings. -/
def ofConfig (translator : Message.Translator) (config : EngineConfig) : Engine :=
  ⟨translator, config.separator, config.onlyLastMessage⟩

/-- The engine with English messages and the usual settings. -/
def english : Engine :=
  ofConfig Message.english.translator {}

/-- Several messages as one. -/
def compose (engine : Engine) (messages : List String) : String :=
  Message.compose messages engine.separator engine.onlyLast

/-- The validators from a position on, after an evaluation of those before it. -/
def run (engine : Engine) (value : Option String) (others : String → Option String) :
    (index : Nat) → List Validator → Evaluation → Except ConfigError Evaluation
  | _, [], e => .ok e
  | index, v :: rest, e =>
    match v.callback? with
    | some (kind, name) =>
      run engine value others (index + 1) rest
        (e.addPending (Evaluation.pendingCheck v index kind name))
    | none =>
      let e := e.addDependency v.target?
      if (v.passes? value others).getD true then
        if e.addPass.passes ≥ e.target then .ok e.addPass
        else run engine value others (index + 1) rest e.addPass
      else do
        let message ← Message.resolve engine.translator (v.failureKey (value.getD "")) v.params
          v.alt
        run engine value others (index + 1) rest (e.addMessage message)

/-- The evaluation with its verdict.  A valid one has no messages and asks no
callbacks. -/
def conclude (engine : Engine) (e : Evaluation) : Evaluation :=
  if e.passes ≥ e.target then
    { e with valid := true, messages := [], pending := [], message := engine.compose [] }
  else
    { e with valid := false, message := engine.compose e.messages }

/-- Whether a field needs no evaluation: it is disabled, or it may be empty and is. -/
def skips (state : FieldState) (value : Option String) : Bool :=
  state.disabled || (!state.required && !state.validateOnEmpty && (value.getD "").isEmpty)

/-- The evaluation of a field, given its value and the values of other fields. -/
def evaluate (engine : Engine) (state : FieldState) (value : Option String)
    (others : String → Option String) : Except ConfigError Evaluation :=
  if skips state value then
    .ok .skip
  else do
    let start : Evaluation :=
      { target := state.requirement.target state.validators.length }
    return engine.conclude (← engine.run value others 0 state.validators start)

/-- The message for a check whose callback refused the value. -/
def refusal (engine : Engine) (check : PendingCheck) (outcome : Outcome) :
    Except ConfigError String :=
  match outcome.message with
  | some message =>
    if message.isEmpty then
      Message.resolve engine.translator check.key check.params check.alt
    else
      .ok message
  | none => Message.resolve engine.translator check.key check.params check.alt

/-- What the callbacks replied, counted in the order of the chain.  The first
error ends the count. -/
def collect (engine : Engine) (field : String) :
    List (PendingCheck × Except CallbackError Outcome) → Except ConfigError Verdict
  | [] => .ok ⟨0, []⟩
  | (check, result) :: rest =>
    match result with
    | .error cause => .error (.callbackFailed field check.callback cause)
    | .ok outcome =>
      if outcome.valid then do
        let verdict ← collect engine field rest
        return { verdict with passes := verdict.passes + 1 }
      else do
        let message ← engine.refusal check outcome
        let verdict ← collect engine field rest
        return { verdict with messages := message :: verdict.messages }

/-- The result of an evaluation and of its callbacks together. -/
def settle (engine : Engine) (e : Evaluation) (verdict : Verdict) : Settled :=
  if e.passes + verdict.passes ≥ e.target then ⟨true, ""⟩
  else ⟨false, engine.compose (e.messages ++ verdict.messages)⟩

end Engine

end FieldRules
