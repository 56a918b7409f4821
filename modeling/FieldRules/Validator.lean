import FieldRules.Date.Format
import FieldRules.Number.Binary64
import FieldRules.Operator
import FieldRules.Pattern

/-!
# Validators

A validator is what one clause of a chain becomes.  Its check is one of four
kinds:

* a `Test`, which the value alone decides: a pattern, a comparison of numbers,
  or a comparison of dates;
* two tests, of the length and of the number, between which the value chooses;
* a comparison with the value of another field;
* a callback, whose outcome comes later.
-/

namespace FieldRules

open Date Number

/-- A comparison of the value with a bound. -/
structure Condition where
  operator : Operator
  bound : String
  deriving DecidableEq, Repr

/-- A test that the value alone decides. -/
inductive Test where
  | pattern (pattern : Pattern) (negated required : Bool)
  | number (conditions : List Condition)
  | date (format : Format) (pattern : Pattern) (conditions : List Condition)
  deriving DecidableEq, Repr

namespace Test

/-- Whether a text is a number that meets the conditions. -/
def numberPasses (conditions : List Condition) (text : String) : Bool :=
  match Number.parse text with
  | none => false
  | some value =>
    conditions.all fun condition =>
      (Number.parse condition.bound).any fun bound =>
        condition.operator.holds (value.compare bound)

/-- Whether a text is an instant that meets the conditions. -/
def datePasses (format : Format) (conditions : List Condition) (text : String) : Bool :=
  match format.instant? text with
  | none => false
  | some value =>
    conditions.all fun condition =>
      (format.instant? condition.bound).any fun bound =>
        condition.operator.holds (value.compare bound)

/-- Whether a value passes.  A missing value is an empty text, except that it
never passes the test for a required value. -/
def passes (test : Test) (value : Option String) : Bool :=
  let text := value.getD ""
  match test with
  | pattern p negated required =>
    if required && value.isNone then false else p.occursIn text != negated
  | number conditions => numberPasses conditions text
  | date format p conditions => p.occursIn text && datePasses format conditions text

end Test

/-- A test with the key of its message. -/
structure Shape where
  key : String
  test : Test
  deriving DecidableEq, Repr

/-- The field whose value is compared with. -/
structure Target where
  field : String
  label : String
  operator : Operator
  deriving DecidableEq, Repr

/-- The two kinds of callbacks. -/
inductive CallbackKind where
  | custom
  | remote
  deriving DecidableEq, Repr

/-- How a validator decides. -/
inductive Check where
  | test (test : Test)
  | auto (length : Option Shape) (number : Shape)
  | matching (target : Target)
  | callback (kind : CallbackKind) (name : String)
  deriving DecidableEq, Repr

/-- The shape of a check with two shapes that a text chooses: the numeric one
for a number, and also where the bounds are no lengths. -/
def chooseShape (length : Option Shape) (number : Shape) (text : String) : Shape :=
  if (Number.parse text).isSome then number else length.getD number

/-- A clause that is ready to be evaluated: the keyword of its rule, the key of
its message, what fills the message, and a message text of its own. -/
structure Validator where
  rule : String
  key : String
  params : List String
  alt : Option String
  check : Check
  deriving DecidableEq, Repr

namespace Validator

/-- The field that the validator compares with. -/
def target? (v : Validator) : Option Target :=
  match v.check with
  | .matching target => some target
  | _ => none

/-- The callback that the validator asks. -/
def callback? (v : Validator) : Option (CallbackKind × String) :=
  match v.check with
  | .callback kind name => some (kind, name)
  | _ => none

/-- Whether the validator makes the field required. -/
def isRequired (v : Validator) : Bool :=
  match v.check with
  | .test (.pattern _ _ required) => required
  | _ => false

end Validator

end FieldRules
