import FieldRules.Operator

/-!
# Dependencies

A field whose rules compare it with another field depends on that field.  When
the other field changes, all fields that depend on it are evaluated again.
There is at most one dependency between two fields in one direction.
-/

namespace FieldRules

/-- That the value of `dependent` is compared with the value of `source`. -/
structure Dependency where
  dependent : String
  source : String
  operator : Operator
  deriving DecidableEq, Repr

/-- The dependencies, in the order in which they were found. -/
structure Dependencies where
  edges : List Dependency := []
  deriving DecidableEq, Repr

namespace Dependencies

/-- The edges with one more, which replaces the edge between its fields. -/
def putEdge (edge : Dependency) : List Dependency → List Dependency
  | [] => [edge]
  | head :: rest =>
    if head.dependent = edge.dependent ∧ head.source = edge.source then edge :: rest
    else head :: putEdge edge rest

/-- The dependencies with one more. -/
def register (dependencies : Dependencies) (edge : Dependency) : Dependencies :=
  ⟨putEdge edge dependencies.edges⟩

/-- The fields that depend on a field. -/
def dependentsOf (dependencies : Dependencies) (source : String) : List String :=
  (dependencies.edges.filter (·.source = source)).map (·.dependent)

/-- The fields that a field depends on. -/
def sourcesOf (dependencies : Dependencies) (dependent : String) : List String :=
  (dependencies.edges.filter (·.dependent = dependent)).map (·.source)

/-- The dependencies without those of a field, and how many these were. -/
def removeDependent (dependencies : Dependencies) (dependent : String) :
    Dependencies × Nat :=
  let kept := dependencies.edges.filter (·.dependent ≠ dependent)
  (⟨kept⟩, dependencies.edges.length - kept.length)

end Dependencies

end FieldRules
