import FieldRules.Pattern.Syntax

/-!
# Nesting

`Expr.depth` counts how deep groups, classes, repetitions, sequences and
choices are nested; a sequence or a choice counts once, however long it is.
-/

namespace FieldRules.Pattern

/-- Where a node stands: inside a chain of its own kind or not. -/
inductive Chain where
  | none
  | seq
  | alt
  | union
  deriving DecidableEq

/-- One level more, unless the node continues the chain around it. -/
def levelUnless (continues : Bool) (inner : Nat) : Nat :=
  if continues then inner else inner + 1

/-- How deep a class is nested, inside a union or not. -/
def ClassExpr.depth (chain : Chain) : ClassExpr → Nat
  | nothing | char _ | escapedByte _ | interval _ _ | shorthand _ _ | named _ _ | posix _ _ => 0
  | union left nothing => left.depth chain
  | union left right =>
    levelUnless (chain = .union) (max (left.depth .union) (right.depth .union))
  | inter left right | diff left right | symmDiff left right =>
    max (left.depth .none) (right.depth .none) + 1
  | bracket _ body => body.depth .none + 1

/-- How deep a pattern is nested, inside a sequence or a choice or neither. -/
def Expr.depth (chain : Chain) : Expr → Nat
  | empty | char _ | escapedByte _ | dot | anchor _ | change _ => 0
  | cls c => c.depth .none
  | seq first second =>
    levelUnless (chain = .seq) (max (first.depth .seq) (second.depth .seq))
  | alt left right =>
    levelUnless (chain = .alt) (max (left.depth .alt) (right.depth .alt))
  | rep body _ _ => body.depth .none + 1
  | capture body => body.depth .none + 1
  | group _ body => body.depth .none + 1

/-- The deepest nesting that a pattern may have. -/
def depthLimit : Nat := 250

end FieldRules.Pattern
