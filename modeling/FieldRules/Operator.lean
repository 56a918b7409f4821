/-!
# Relational operators
-/

namespace FieldRules

/-- How a value must relate to a bound or to another value. -/
inductive Operator where
  | eq
  | ne
  | lt
  | le
  | gt
  | ge
  deriving DecidableEq, Repr

namespace Operator

/-- Whether two things whose order is known are related as the operator says. -/
def holds : Operator → Ordering → Bool
  | eq, o => o == .eq
  | ne, o => o != .eq
  | lt, o => o == .lt
  | le, o => o != .gt
  | gt, o => o == .gt
  | ge, o => o != .lt

def symbol : Operator → String
  | eq => "=="
  | ne => "!="
  | lt => "<"
  | le => "<="
  | gt => ">"
  | ge => ">="

/-- Every operator. -/
def all : List Operator := [eq, ne, lt, le, gt, ge]

/-- The operator with the given symbol. -/
def ofSymbol? (symbol : String) : Option Operator :=
  all.find? (·.symbol == symbol)

end Operator

end FieldRules
