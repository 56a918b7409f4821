/-!
# Clauses and chains

A chain of rules is written as clauses between bars, such as
`alpha|min_len:2|required`.  A clause has a keyword, parameters between commas
behind a colon, and may carry a message text of its own behind `alt=`.
-/

namespace FieldRules.Rule

/-- One clause of a chain. -/
structure Clause where
  name : String
  params : List String
  alt : Option String
  deriving DecidableEq, Repr

/-- A pattern written out in a chain, with its flags and its message text. -/
structure LiteralPattern where
  source : String
  flags : String
  alt : Option String
  deriving DecidableEq, Repr

/-- A chain: its clauses, the pattern written out in it, and whether one of the
clauses makes the field required. -/
structure Chain where
  clauses : List Clause
  literal : Option LiteralPattern
  required : Bool
  deriving DecidableEq, Repr

end FieldRules.Rule
