import FieldRules.Context.Edit

/-!
# Steps of a context

A step carries out one operation and then lets everything happen that needs no
time.  The answer is what the operation itself says, before anything else
happens.
-/

namespace FieldRules

/-- What can be done with a context. -/
inductive Operation where
  | register (registration : Registration)
  | unregister (field : String)
  | setRules (field rules : String)
  | setValue (field value : String)
  | clearValue (field : String)
  | setDisabled (field : String) (disabled : Bool)
  | validate (field : String)
  | checkForm (form : String)
  | resetForm (form : String) (options : Context.ResetOptions)
  | advance (ms : Nat)
  | setCallback (name : String) (callback : Callback)
  | removeCallback (name : String)
  | takeErrors

/-- What an operation says. -/
inductive Answer where
  | done
  | flag (value : Bool)
  | report (report : Report)
  | errors (errors : List ConfigError)
  | refused (error : ConfigError)

namespace Answer

/-- The answer of an operation that may end in an error. -/
def ofResult {α : Type} (say : α → Answer) : Except ConfigError α → Answer
  | .ok value => say value
  | .error e => refused e

end Answer

namespace Context

/-- Carries out an operation. -/
def perform (c : Context) : Operation → Context × Answer
  | .register registration => (c.register registration).map id (.ofResult fun _ => .done)
  | .unregister field => (c.unregister field).map id .flag
  | .setRules field rules => (c.setRules field rules).map id (.ofResult fun _ => .done)
  | .setValue field value => (c.setValue field value).map id (.ofResult fun _ => .done)
  | .clearValue field => (c.clearValue field).map id (.ofResult fun _ => .done)
  | .setDisabled field disabled =>
    (c.setDisabled field disabled).map id (.ofResult fun _ => .done)
  | .validate field => (c.validate field).map id (.ofResult .report)
  | .checkForm form => (c.checkForm form).map id (.ofResult .flag)
  | .resetForm form options => (c.resetForm form options).map id (.ofResult fun _ => .done)
  | .advance ms => (c.advance ms, .done)
  | .setCallback name callback =>
    ({ c with callbacks := c.callbacks.put name callback }, .done)
  | .removeCallback name =>
    ({ c with callbacks := c.callbacks.drop name }, .flag (c.callbacks.has name))
  | .takeErrors => ({ c with errors := [] }, .errors c.errors)

/-- Carries out an operation and what follows from it without delay. -/
def step (c : Context) (operation : Operation) : Context × Answer :=
  (c.perform operation).map settle id

/-- The context after some operations. -/
def run (c : Context) (operations : List Operation) : Context :=
  operations.foldl (fun c operation => (c.step operation).1) c

end Context

end FieldRules
