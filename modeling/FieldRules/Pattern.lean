import FieldRules.Pattern.Matcher
import FieldRules.Pattern.Reader
import FieldRules.Pattern.Size

/-!
# Compiled patterns

A compiled pattern keeps the text it was written as beside its core pattern.
`Pattern.build?` compiles a pattern of the library and `Pattern.read?` one that
a user wrote; both give nothing for a pattern that has no meaning or that is
too large.  Case is ignored unless the pattern itself says otherwise.
-/

namespace FieldRules

open Pattern

/-- A pattern that is ready to be matched. -/
structure Pattern where
  source : String
  core : Re
  deriving DecidableEq, Repr

namespace Pattern

/-- The compiled form of a written pattern, recorded under the given text. -/
def compile? (source : List Char) (options : Options) (e : Expr) : Option Pattern := do
  let (core, _) ← e.lower options
  if e.fits options core then return ⟨String.ofList source, core⟩ else none

/-- The compiled form of a pattern of the library. -/
def build? (e : Expr) : Option Pattern :=
  compile? e.source {} e

/-- The compiled form of a pattern that a user wrote. -/
def read? (source : List Char) (options : Options) : Option Pattern := do
  compile? source options (← Expr.read? source)

/-- Whether the pattern occurs in the text. -/
def occursIn (pattern : Pattern) (text : String) : Bool :=
  pattern.core.occursIn text.toList

end Pattern

end FieldRules
