import FieldRules.Context.Basic

/-!
# Evaluating the fields of a context

`Context.evaluate` evaluates a field with the values that are stored now and
stores what comes of it.  If callbacks have to be asked, an inquiry is added to
those that are ready.

`Context.settle` lets everything happen that needs no time: the callbacks of
all ready inquiries are asked, and those whose callbacks all reply at once
are concluded.  The others wait for the slowest of their callbacks.

`Context.advance` moves the clock on, from one instant at which something is
due to the next.  All events of an instant happen in the order in which they
were set, and then whatever they made ready.
-/

namespace FieldRules

namespace Context

/-! ## Evaluations -/

/-- Stores an evaluation of a field.  A field that is disabled or has no rules
is valid whatever the evaluation says. -/
def applyEvaluation (c : Context) (state : FieldState) (value : Option String)
    (generation : Nat) (e : Evaluation) : Context × Except ConfigError Unit :=
  let c := c.depend state.name e.dependencies
  let state := { state with lastValue := value, generation := none }
  if state.disabled || state.validators.isEmpty then
    ((c.put state.markValid).dismiss state.name, .ok ())
  else if e.isAwaiting then
    let waiting := { state with
      valid := false
      message := e.message
      generation := some generation }
    match c.store (waiting.showing .awaitingRemote) with
    | (c, .ok ()) => ({ c with ready := c.ready ++ [⟨state.name, generation, value, e⟩] }, .ok ())
    | (c, .error e) => (c, .error e)
  else
    c.store (state.record e.valid e.message)

/-- Stores that a field could not be evaluated. -/
def applyFailure (c : Context) (state : FieldState) (value : Option String) : Context :=
  let (c, result) := c.store ({ state with lastValue := value, generation := none }.record false "")
  c.retain result

/-- Stores what came of evaluating a field. -/
def applyResult (c : Context) (state : FieldState) (value : Option String) (generation : Nat) :
    Except ConfigError Evaluation → Context × Except ConfigError Unit
  | .ok e => c.applyEvaluation state value generation e
  | .error e => (c.applyFailure state value, .error e)

/-- Evaluates a field.  The translator answers at once, so nothing comes between
the start of the evaluation and its end: its generation is still the latest one
when the result is stored, and does not have to be compared. -/
def evaluate (c : Context) (field : String) : Context × Except ConfigError Unit :=
  let (generations, generation) := c.generations.begin field
  match c.fields.find? field with
  | none => ({ c with generations := generations.forget field }, .ok ())
  | some state =>
    let value := c.values.find? field
    let sources := c.values.subset (state.targets.map (·.field))
    ({ c with generations }.note (.evaluated field generation value)).applyResult state value
      generation (c.engine.evaluate state value (Assoc.find? sources))

/-- Evaluates a field where nobody waits for the result: an error is kept. -/
def evaluateUnseen (c : Context) (field : String) : Context :=
  let (c, result) := c.evaluate field
  c.retain result

/-- Evaluates fields in turn, up to the first error. -/
def evaluateAll : Context → List String → Context × Except ConfigError Unit
  | c, [] => (c, .ok ())
  | c, field :: rest =>
    match c.evaluate field with
    | (c, .ok ()) => evaluateAll c rest
    | (c, .error e) => (c, .error e)

/-! ## Inquiries -/

/-- Stores the result of an inquiry.  An error leaves the field invalid with the
message of the validators that need no callback. -/
def applyVerdict (c : Context) (state : FieldState) (e : Evaluation)
    (verdict : Except ConfigError Verdict) : Context :=
  let state := { state with generation := none }
  match verdict with
  | .ok verdict =>
    let settled := c.engine.settle e verdict
    let (c, result) := c.store (state.record settled.valid settled.message)
    c.retain result
  | .error error =>
    let (c, result) := c.store (state.record false e.message)
    (c.retain (.error error)).retain result

/-- Ends an inquiry.  It has no effect if its field has been evaluated again or
has been removed since. -/
def conclude (c : Context) (inquiry : Inquiry) (results : Results) : Context :=
  if c.generations.isCurrent inquiry.field inquiry.generation then
    match c.fields.find? inquiry.field with
    | none => c
    | some state =>
      (c.note (.concluded inquiry.field inquiry.generation)).applyVerdict state inquiry.evaluation
        (c.engine.collect inquiry.field results)
  else c

/-- The requests of an inquiry to the callbacks that are there. -/
def requests (c : Context) (inquiry : Inquiry) : List (String × Request) :=
  (inquiry.evaluation.pending.filter fun check => c.callbacks.has check.callback).map fun check =>
    (check.callback, inquiry.request)

/-- Ends an inquiry as soon as the slowest of its callbacks has replied. -/
def await (c : Context) (inquiry : Inquiry) (replies : Replies) : Context :=
  if replies.delay = 0 then c.conclude inquiry replies.results
  else { c with clock := c.clock.set none replies.delay (.reply inquiry replies.results) }

/-- Asks the callbacks of an inquiry, which ends when the slowest has replied. -/
def ask (c : Context) (inquiry : Inquiry) : Context :=
  { c with asked := c.asked ++ c.requests inquiry }.await inquiry
    (inquiry.evaluation.pending.map fun check =>
      (check, c.callbacks.ask check.callback inquiry.request))

/-- Lets everything happen that needs no time. -/
def settle (c : Context) : Context :=
  c.ready.foldl ask { c with ready := [] }

/-! ## Time -/

/-- Lets an event happen. -/
def fire (c : Context) : Event → Context
  | .evaluate field => c.evaluateUnseen field
  | .reply inquiry results => c.conclude inquiry results

/-- Moves the clock to an instant, with all that happens then. -/
def moveTo (c : Context) (instant : Nat) : Context :=
  let (clock, due) := c.clock.moveTo instant
  ((due.map (·.event)).foldl fire { c with clock }).settle

/-- Moves the clock to an instant by way of the earlier instants at which
something is due, at most as many as `fuel`. -/
def advanceTo (instant : Nat) : (fuel : Nat) → Context → Context
  | 0, c => c.moveTo instant
  | fuel + 1, c =>
    match c.clock.nextDue? with
    | some due => if due < instant then advanceTo instant fuel (c.moveTo due) else c.moveTo instant
    | none => c.moveTo instant

/-- Moves the clock on.  An event can set one timer more, and the event of that
timer sets none, so there are at most twice as many instants as timers. -/
def advance (c : Context) (ms : Nat) : Context :=
  advanceTo (c.clock.now + ms) (2 * c.clock.timers.length) c

/-- Evaluates a field after a delay, in place of the evaluation that waits.
Without a delay it is evaluated at once. -/
def schedule (c : Context) (field : String) (delay : Nat) : Context :=
  let (clock, due) := c.clock.schedule field delay (.evaluate field)
  due.foldl fire { c with clock }

end Context

end FieldRules
