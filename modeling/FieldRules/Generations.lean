import FieldRules.Assoc

/-!
# Generations

Each evaluation of a field gets a number, its generation, and numbers are never
given out twice.  A result that comes late is used only if the generation it
belongs to is still the latest one of its field.
-/

namespace FieldRules

/-- The generations of the fields, and the last number that was given out. -/
structure Generations where
  issued : Nat := 0
  latest : Assoc Nat := []
  deriving DecidableEq, Repr

namespace Generations

/-- Gives the next generation to a field. -/
def begin (generations : Generations) (field : String) : Generations × Nat :=
  let next := generations.issued + 1
  (⟨next, generations.latest.put field next⟩, next)

/-- Outdates the generation of a field. -/
def invalidate (generations : Generations) (field : String) : Generations :=
  (generations.begin field).1

/-- Leaves a field without a generation. -/
def forget (generations : Generations) (field : String) : Generations :=
  { generations with latest := generations.latest.drop field }

/-- The latest generation of a field. -/
def current? (generations : Generations) (field : String) : Option Nat :=
  generations.latest.find? field

/-- Whether a generation is the latest one of a field. -/
def isCurrent (generations : Generations) (field : String) (generation : Nat) : Bool :=
  generations.current? field = some generation

/-- A result, if its generation is the latest one of its field. -/
def ifCurrent {α : Type} (generations : Generations) (field : String) (generation : Nat)
    (result : α) : Option α :=
  if generations.isCurrent field generation then some result else none

end Generations

end FieldRules
