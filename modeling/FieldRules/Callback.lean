import FieldRules.Assoc
import FieldRules.Error
import FieldRules.Json.Printer

/-!
# Callbacks

A callback judges the value of a field in a way that rules cannot express.  It
is asked with a request and replies after a delay, either with an outcome or
with an error of its own.

`Outcome.ofJson` reads an outcome from a JSON value: a truth value, or an
object with `valid` (or `isValid`) and an optional `message`.
-/

namespace FieldRules

/-- What a callback is asked about. -/
structure Request where
  field : String
  value : String
  deriving DecidableEq, Repr

/-- What a callback found. -/
structure Outcome where
  valid : Bool
  message : Option String
  deriving DecidableEq, Repr

/-- The answer to a request, and the milliseconds until it is known. -/
structure Reply where
  delay : Nat
  result : Except CallbackError Outcome

/-- A callback. -/
structure Callback where
  reply : Request → Reply

/-- Callbacks by name. -/
abbrev Callbacks := Assoc Callback

/-- The reply of the callback with the given name. -/
def Callbacks.ask (callbacks : Callbacks) (name : String) (request : Request) : Reply :=
  match Assoc.find? callbacks name with
  | some callback => callback.reply request
  | none => ⟨0, .error (.notRegistered name)⟩

namespace Outcome

/-- The error for a value that is no outcome. -/
def unsupported (value : Json) : CallbackError :=
  .unsupportedResult value.sortKeys.compact

/-- The outcome that a JSON value stands for. -/
def ofJson (value : Json) : Except CallbackError Outcome :=
  match value with
  | .bool valid => .ok ⟨valid, none⟩
  | .object _ =>
    match ((value.get? "valid").or (value.get? "isValid")).bind Json.bool? with
    | none => .error (unsupported value)
    | some valid =>
      match value.get? "message" with
      | none | some .null => .ok ⟨valid, none⟩
      | some (.string message) => .ok ⟨valid, some message⟩
      | some _ => .error (unsupported value)
  | _ => .error (unsupported value)

end Outcome

end FieldRules
