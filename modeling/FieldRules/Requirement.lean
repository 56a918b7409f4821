import FieldRules.Text.Blank
import FieldRules.Text.Digits

/-!
# How many validators must pass

A chain is valid when enough of its validators pass: all of them, one, or a
given number of at least two.  No chain needs more passes than it has
validators.
-/

namespace FieldRules

/-- How many validators of a chain must pass. -/
inductive Requirement where
  | all
  | one
  | atLeast (n : Nat)
  deriving DecidableEq, Repr

/-- Why a text or a number is no requirement. -/
inductive RequirementError where
  | notUnderstood (text : String)
  | zero
  deriving DecidableEq, Repr

def RequirementError.message : RequirementError → String
  | notUnderstood text => "expected \"all\", \"one\" or a number, got \"" ++ text ++ "\""
  | zero => "require count must be at least 1"

namespace Requirement

/-- The passes that a chain of the given length needs. -/
def target (requirement : Requirement) (total : Nat) : Nat :=
  match requirement with
  | all => total
  | one => min total 1
  | atLeast n => min total n

/-- The requirement of a number of passes. -/
def ofNat (n : Nat) : Except RequirementError Requirement :=
  match n with
  | 0 => .error .zero
  | 1 => .ok one
  | n => .ok (atLeast n)

/-- The requirement that a text writes down, blanks around it aside. -/
def parse (text : String) : Except RequirementError Requirement :=
  let trimmed := Text.trim text.toList
  if trimmed = "all".toList then .ok all
  else if trimmed = "one".toList then .ok one
  else
    match Text.unsigned? Text.countLimit trimmed with
    | some n => ofNat n
    | none => .error (.notUnderstood (String.ofList trimmed))

end Requirement

end FieldRules
