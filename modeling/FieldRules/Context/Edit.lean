import FieldRules.Context.Evaluate

/-!
# Changing a context

The operations on the fields and forms of a context.  An operation that is
refused because of its arguments leaves the context as it was.

* `register`, `setRules`, `unregister`: which fields there are, and their rules.
* `setValue`, `clearValue`: the values.  The field is evaluated after its delay,
  and the fields that depend on it at once.
* `validate`, `setDisabled`: one field.
* `checkForm`, `resetForm`: all fields of a form.
-/

namespace FieldRules

/-- A field to be registered, perhaps with a value. -/
structure Registration where
  name : String
  rules : String
  form : Option String := none
  options : FieldOptions := {}
  value : Option String := none
  deriving DecidableEq, Repr

/-- The state of a field that is registered. -/
def Registration.state (registration : Registration) (compiled : Rule.Compiled)
    (config : EngineConfig) : FieldState :=
  let fresh := FieldState.fresh registration.name registration.rules compiled
    registration.options config
  { fresh with
    form := registration.form
    status := if fresh.validators.isEmpty then .cancelled else fresh.status }

namespace Context

/-! ## Registration -/

/-- Compiles rules whose callbacks are all known. -/
def compile (c : Context) (rules : String) : Except ConfigError Rule.Compiled := do
  let compiled ← Rule.compile rules
  match compiled.callbacks.find? fun (_, callback) => !c.callbacks.has callback with
  | some (rule, callback) => throw (.missingCallback rule callback)
  | none => return compiled

/-- Removes a field with all that belongs to it. -/
def remove (c : Context) (field : String) : Context :=
  let c := { c with
    generations := c.generations.forget field
    clock := c.clock.cancel field }
  if c.isRegistered field then
    { c with
      fields := c.fields.drop field
      values := c.values.set field none
      forms := c.forms.remove field
      summary := c.summary.remove field
      dependencies := (c.dependencies.removeDependent field).1 }.note (.removed field)
  else c

/-- Unregisters a field; says whether there was one. -/
def unregister (c : Context) (field : String) : Context × Bool :=
  (c.remove field, c.isRegistered field)

/-- Adds a field that is not there yet. -/
def enroll (c : Context) (registration : Registration) (compiled : Rule.Compiled) : Context :=
  let state := registration.state compiled c.config
  let c := c.depend state.name state.targets
  let c := match registration.form with
    | some form => { c with forms := c.forms.insert form state.name }
    | none => c
  let c := match registration.value with
    | some value => { c with values := c.values.set state.name (some value) }
    | none => c
  c.put state

/-- Registers a field, in place of the one of its name, and evaluates it. -/
def register (c : Context) (registration : Registration) :
    Context × Except ConfigError Unit :=
  if registration.name.isEmpty then (c, .error .missingFieldName)
  else
    match c.compile registration.rules with
    | .error e => (c, .error e)
    | .ok compiled =>
      let c := if c.isRegistered registration.name then c.remove registration.name else c
      (c.enroll registration compiled).evaluate registration.name

/-- The context with the dependencies of a field replaced. -/
def redepend (c : Context) (state : FieldState) : Context :=
  { c with dependencies := (c.dependencies.removeDependent state.name).1 }.depend state.name
    state.targets

/-- Stops validating a field, which is valid from then on. -/
def suspend (c : Context) (state : FieldState) : Context :=
  (((c.cancel state.name).invalidate state.name).put state.suspended).dismiss state.name

/-- Gives a field other rules and evaluates it.  Without rules it is no longer
validated. -/
def setRules (c : Context) (field rules : String) : Context × Except ConfigError Unit :=
  match c.compile rules with
  | .error e => (c, .error e)
  | .ok compiled =>
    match c.fields.find? field with
    | none => (c, .error (.unknownField field))
    | some state =>
      let c := (c.note (.ruled field)).redepend (state.withRules rules compiled)
      if compiled.validators.isEmpty then
        (c.suspend (state.withRules rules compiled), .ok ())
      else
        (c.put (state.ruled rules compiled)).evaluate field

/-! ## Values -/

/-- Gives a field a value, or none.  Fields that are not validated are not
evaluated either. -/
def change (c : Context) (field : String) (value : Option String) :
    Context × Except ConfigError Unit :=
  match c.fields.find? field with
  | none => (c, .error (.unknownField field))
  | some state =>
    let dependents := c.dependencies.dependentsOf field
    let c := { c.put state.changed with values := c.values.set field value }.note
      (.changed field value)
    let c := if state.status = .cancelled then c else c.schedule field state.debounce
    (dependents.foldl (fun c dependent => c.schedule dependent 0) c, .ok ())

/-- Gives a field a value. -/
def setValue (c : Context) (field value : String) : Context × Except ConfigError Unit :=
  c.change field (some value)

/-- Takes the value of a field away. -/
def clearValue (c : Context) (field : String) : Context × Except ConfigError Unit :=
  c.change field none

/-! ## Single fields -/

/-- Evaluates a field now and shows the result from now on. -/
def validate (c : Context) (field : String) : Context × Except ConfigError Report :=
  match c.fields.find? field with
  | none => (c, .error (.unknownField field))
  | some state =>
    match ((c.put { state with touched := true }).cancel field).evaluate field with
    | (c, .error e) => (c, .error e)
    | (c, .ok ()) =>
      match c.report? field with
      | some report => (c, .ok report)
      | none => (c, .error (.unknownField field))

/-- Disables a field, or enables it and evaluates it.  A disabled field is
valid. -/
def setDisabled (c : Context) (field : String) (disabled : Bool) :
    Context × Except ConfigError Unit :=
  match c.fields.find? field with
  | none => (c, .error (.unknownField field))
  | some state =>
    if disabled then
      ((c.note (.disabled field)).suspend { state with disabled }, .ok ())
    else
      (c.put state.enabled).evaluate field

/-! ## Forms -/

/-- Evaluates the fields whose evaluation waits, up to the first error. -/
def flush : Context → List String → Context × Except ConfigError Unit
  | c, [] => (c, .ok ())
  | c, field :: rest =>
    if c.clock.isPending field then
      match (c.cancel field).evaluate field with
      | (c, .ok ()) => flush c rest
      | (c, .error e) => (c, .error e)
    else
      flush c rest

/-- Shows that a field is invalid, if it is. -/
def reveal (c : Context) (field : String) : Context :=
  match c.fields.find? field with
  | none => c
  | some state =>
    if state.valid then c else c.put state.revealed

/-- Whether a field is valid; a field that is not there is. -/
def isValid (c : Context) (field : String) : Bool :=
  ((c.fields.find? field).map (·.valid)).getD true

/-- Evaluates the fields of a form that wait for it, shows the invalid ones and
says whether all are valid. -/
def checkForm (c : Context) (form : String) : Context × Except ConfigError Bool :=
  let fields := c.forms.fields form
  match c.flush fields with
  | (c, .error e) => (c, .error e)
  | (c, .ok ()) => (fields.foldl reveal c, .ok (fields.all c.isValid))

/-- What a reset does beside clearing the errors. -/
structure ResetOptions where
  emptyValues : Bool := false
  removeValidators : Bool := false
  deriving DecidableEq, Repr

/-- Makes a field look as if nothing had happened to it yet. -/
def renew (emptyValues : Bool) (c : Context) (field : String) : Context :=
  let c := if emptyValues then { c with values := c.values.set field none } else c
  match c.fields.find? field with
  | none => c
  | some state => (c.note (.reset field)).put (state.renewed c.config.preValidate)

/-- The context in which nothing that a field has under way has an effect. -/
def outdate (c : Context) (field : String) : Context :=
  (c.cancel field).invalidate field

/-- The context without the errors of a form. -/
def clearErrors (c : Context) (form : String) : Context :=
  { c with summary := (c.summary.clearForm form).1 }

/-- Clears the errors of a form and makes its fields look new.  They are either
removed or evaluated again, up to the first error. -/
def resetForm (c : Context) (form : String) (options : ResetOptions) :
    Context × Except ConfigError Unit :=
  let fields := c.forms.fields form
  if options.removeValidators then
    ((fields.foldl remove c).clearErrors form, .ok ())
  else
    (fields.foldl (renew options.emptyValues) ((fields.foldl outdate c).clearErrors form)).evaluateAll
      fields

end Context

end FieldRules
