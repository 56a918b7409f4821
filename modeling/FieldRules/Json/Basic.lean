import FieldRules.Json.Numeral

/-!
# JSON values

Objects keep their entries in the order in which they were written, repeated
keys included, so that a reader of a value can tell a key that was given twice.

A string in a document may name half a character.  Such a string is no value,
but it does no harm where nobody reads it, so it has a place of its own among
the values.
-/

namespace FieldRules

/-- A JSON value.  `unreadable` is a string with half a character in it, or an
object with such a key. -/
inductive Json where
  | null
  | bool (b : Bool)
  | number (n : Json.Numeral)
  | string (s : String)
  | array (items : List Json)
  | object (entries : List (String × Json))
  | unreadable
  deriving Repr, Inhabited

namespace Json

/-- A whole number. -/
def int (value : Int) : Json := .number (.ofInt value)

/-- A natural number. -/
def nat (value : Nat) : Json := .int value

/-- A string, or null where there is none. -/
def stringOrNull : Option String → Json
  | some s => .string s
  | none => .null

/-- A list of strings. -/
def strings (items : List String) : Json := .array (items.map .string)

/-- The value of the last entry with the key. -/
def get? (value : Json) (key : String) : Option Json :=
  match value with
  | object entries => entries.reverse.lookup key
  | _ => none

/-- The value as a string. -/
def string? : Json → Option String
  | string s => some s
  | _ => none

/-- The value as a truth value. -/
def bool? : Json → Option Bool
  | bool b => some b
  | _ => none

/-- The value as a natural number of at most 64 bits. -/
def natural? : Json → Option Nat
  | number n => n.natural?
  | _ => none

end Json

end FieldRules
