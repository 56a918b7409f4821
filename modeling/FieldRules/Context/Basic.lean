import FieldRules.Clock
import FieldRules.Dependencies
import FieldRules.Evaluation
import FieldRules.Forms
import FieldRules.Generations
import FieldRules.Summary
import FieldRules.Values

/-!
# The context

A context holds all that is known about a set of fields: their states and
values, the forms they are in, the summary of what is wrong with them, the
dependencies between them, the evaluations that wait, and the errors that no
caller was there to see.

* `Context` is the whole of it, and `Context.start` an empty one.
* `Context.put` stores the state of a field, and `Context.store` also brings the
  summary in line with it.
* `Mark` is what the journal of a context records about a field.
* `Report` is what a form shows of a field.
-/

namespace FieldRules

/-! ## What waits -/

/-- The callbacks of an evaluation, still to be asked or still to reply. -/
structure Inquiry where
  field : String
  generation : Nat
  value : Option String
  evaluation : Evaluation
  deriving DecidableEq, Repr

/-- The request of an inquiry; no value counts as an empty one. -/
def Inquiry.request (inquiry : Inquiry) : Request :=
  ⟨inquiry.field, inquiry.value.getD ""⟩

/-- What an inquiry has been told: an outcome or an error for each callback. -/
abbrev Results := List (PendingCheck × Except CallbackError Outcome)

/-- What each callback of an inquiry replies. -/
abbrev Replies := List (PendingCheck × Reply)

/-- What the callbacks reply, delays aside. -/
def Replies.results (replies : Replies) : Results :=
  replies.map fun (check, reply) => (check, reply.result)

/-- The milliseconds until the slowest callback has replied. -/
def Replies.delay (replies : Replies) : Nat :=
  (replies.map (·.2.delay)).foldl max 0

/-- What waits for an instant: the evaluation of a field whose value has
changed, or the replies to an inquiry. -/
inductive Event where
  | evaluate (field : String)
  | reply (inquiry : Inquiry) (results : Results)

/-! ## The journal -/

/-- What happens to a field: it is evaluated for the value that it has, its
inquiry is concluded, its value changes, or it is disabled, given other rules,
reset with its form or removed. -/
inductive Mark where
  | evaluated (field : String) (generation : Nat) (value : Option String)
  | concluded (field : String) (generation : Nat)
  | changed (field : String) (value : Option String)
  | disabled (field : String)
  | ruled (field : String)
  | reset (field : String)
  | removed (field : String)
  deriving DecidableEq, Repr

namespace Mark

/-- The field that a mark is about. -/
def field : Mark → String
  | evaluated field _ _ | concluded field _ | changed field _ | disabled field | ruled field
  | reset field | removed field => field

/-- Whether what an earlier evaluation of the field asked is out of date. -/
def supersedes : Mark → Bool
  | evaluated .. | disabled _ | ruled _ | reset _ | removed _ => true
  | concluded .. | changed .. => false

end Mark

/-! ## The context -/

/-- All that is known about a set of fields.  `ready` lists the inquiries whose
callbacks have not been asked yet, and `asked` the requests that were made of
callbacks.  The `journal` lists what has happened to the fields; no operation
reads it. -/
structure Context where
  config : EngineConfig := {}
  translator : Message.Translator
  callbacks : Callbacks := []
  fields : Assoc FieldState := []
  values : Values := []
  forms : Forms := {}
  summary : Summary := {}
  dependencies : Dependencies := {}
  generations : Generations := {}
  clock : Clock Event := {}
  ready : List Inquiry := []
  errors : List ConfigError := []
  asked : List (String × Request) := []
  journal : List Mark := []

/-- What a form shows of a field. -/
structure Report where
  name : String
  form : Option String
  status : Status
  valid : Bool
  message : String
  touched : Bool
  disabled : Bool
  friendlyName : String
  errorTarget : Option String
  value : Option String
  deriving DecidableEq, Repr

/-- The entry of the summary for a field. -/
def SummaryEntry.ofField (state : FieldState) : SummaryEntry :=
  ⟨state.name, state.form, state.displayName, state.message⟩

/-- The summary in line with the state of a field. -/
def Summary.follow (summary : Summary) (state : FieldState) : Except ConfigError Summary :=
  if state.valid then .ok (summary.remove state.name) else summary.add (.ofField state)

namespace Context

/-- A context without fields. -/
def start (translator : Message.Translator) (config : EngineConfig) (callbacks : Callbacks) :
    Context :=
  { config, translator, callbacks }

/-- What evaluations need beside the fields. -/
def engine (c : Context) : Engine :=
  Engine.ofConfig c.translator c.config

/-- Whether there is a field of this name. -/
def isRegistered (c : Context) (field : String) : Bool :=
  c.fields.has field

/-- What a form shows of a field. -/
def report? (c : Context) (field : String) : Option Report :=
  (c.fields.find? field).map fun state =>
    { name := state.name
      form := state.form
      status := state.status
      valid := state.valid
      message := state.message
      touched := state.touched
      disabled := state.disabled
      friendlyName := state.displayName
      errorTarget := state.errorTarget
      value := c.values.find? field }

/-- The context with one more mark in its journal. -/
def note (c : Context) (mark : Mark) : Context :=
  { c with journal := c.journal ++ [mark] }

/-- The context with the state of a field. -/
def put (c : Context) (state : FieldState) : Context :=
  { c with fields := c.fields.put state.name state }

/-- The context without the entry of a field in its summary. -/
def dismiss (c : Context) (field : String) : Context :=
  { c with summary := c.summary.remove field }

/-- The context with the state of a field, and with the summary in line. -/
def store (c : Context) (state : FieldState) : Context × Except ConfigError Unit :=
  match c.summary.follow state with
  | .ok summary => ({ c.put state with summary }, .ok ())
  | .error e => (c.put state, .error e)

/-- The context without the waiting evaluation of a field. -/
def cancel (c : Context) (field : String) : Context :=
  { c with clock := c.clock.cancel field }

/-- The context in which inquiries of a field that are under way have no effect. -/
def invalidate (c : Context) (field : String) : Context :=
  { c with generations := c.generations.invalidate field }

/-- The context with the dependencies of a field on the fields that its rules
compare with. -/
def depend (c : Context) (field : String) (targets : List Target) : Context :=
  { c with dependencies := targets.foldl (fun dependencies target =>
      dependencies.register ⟨field, target.field, target.operator⟩) c.dependencies }

/-- The context with the error of a result kept, if it has one. -/
def retain (c : Context) (result : Except ConfigError Unit) : Context :=
  match result with
  | .ok () => c
  | .error e => { c with errors := c.errors ++ [e] }

end Context

end FieldRules
