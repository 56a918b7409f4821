import FieldRules.Rule.Chain
import FieldRules.Validator

/-!
# From clauses to validators

`Clause.resolve` turns a clause into a validator, or says what is wrong with
it: the keyword is unknown, the number of parameters is wrong, a bound is not
what the rule expects, or the pattern is not valid.  `compile` does so for a
whole chain and stops at the first fault.
-/

namespace FieldRules.Rule

open Date

/-! ## Parameters -/

/-- The parameters, if there are as many as expected. -/
def expectParams (rule : String) (params : List String) (expected : Arity) :
    Except ConfigError (List String) :=
  if expected.admits params.length then .ok params
  else .error (.paramCount rule expected params.length)

/-- The count that a bound stands for. -/
def countBound (rule raw : String) : Except ConfigError Nat :=
  match Text.unsigned? Text.countLimit (Text.trim raw.toList) with
  | some n => .ok n
  | none => .error (.invalidBound rule raw .notCount)

/-- Two counts in order. -/
def countRange (rule lo hi : String) : Except ConfigError (Nat × Nat) := do
  let least ← countBound rule lo
  let greatest ← countBound rule hi
  if least ≤ greatest then return (least, greatest)
  else .error (.invalidBound rule hi .reversed)

/-- A bound that is a finite number, without blanks around it. -/
def numberBound (rule raw : String) : Except ConfigError String :=
  if (Number.parse raw).isSome then .ok (Text.trimmed raw)
  else .error (.invalidBound rule raw .notNumber)

/-- A bound that is an instant of the format, without blanks around it. -/
def dateBound (format : Format) (rule raw : String) : Except ConfigError String :=
  if (format.instant? raw).isSome then .ok (Text.trimmed raw)
  else .error (.invalidBound rule raw .notDate)

/-- The conditions of a rule with bounds, each read by `read`. -/
def boundConditions (bound : Bound) (read : String → Except ConfigError String)
    (params : List String) : Except ConfigError (List Condition) :=
  match bound, params with
  | .exact, raw :: _ => do return [⟨.eq, ← read raw⟩]
  | .min, raw :: _ => do return [⟨.ge, ← read raw⟩]
  | .max, raw :: _ => do return [⟨.le, ← read raw⟩]
  | .between, lo :: hi :: _ => do
    let least ← read lo
    let greatest ← read hi
    return [⟨.ge, least⟩, ⟨.le, greatest⟩]
  | _, _ => .ok []

/-! ## Tests -/

/-- The compiled form of a pattern of a rule. -/
def buildPattern (rule : String) (e : Pattern.Expr) : Except ConfigError Pattern :=
  match Pattern.build? e with
  | some p => .ok p
  | none => .error (.invalidPattern rule)

/-- The test for a pattern. -/
def patternTest (rule : String) (e : Pattern.Expr) : Except ConfigError Test :=
  (buildPattern rule e).map fun p => .pattern p false false

/-- The least and the greatest length that the parameters ask for. -/
def lengthBounds (rule : String) (bound : Bound) (params : List String) :
    Except ConfigError (Nat × Option Nat) :=
  match bound, params with
  | .exact, raw :: _ => (countBound rule raw).map fun n => (n, some n)
  | .min, raw :: _ => (countBound rule raw).map fun n => (n, none)
  | .max, raw :: _ => (countBound rule raw).map fun n => (0, some n)
  | .between, lo :: hi :: _ => (countRange rule lo hi).map fun (lo, hi) => (lo, some hi)
  | _, _ => .ok (0, none)

/-- The test for a length. -/
def lengthTest (rule : String) (bound : Bound) (params : List String) :
    Except ConfigError Test := do
  let (lo, hi) ← lengthBounds rule bound params
  patternTest rule (Patterns.length lo hi)

/-- The test for a number. -/
def numberTest (rule : String) (bound : Bound) (params : List String) :
    Except ConfigError Test :=
  (boundConditions bound (numberBound rule) params).map .number

/-- The test for a number of digits. -/
def digitsTest (rule : String) (params : List String) : Except ConfigError Test :=
  match params with
  | [raw] => do
    let n ← countBound rule raw
    patternTest rule (Patterns.digits n n)
  | lo :: hi :: _ => do
    let (least, greatest) ← countRange rule lo hi
    patternTest rule (Patterns.digits least greatest)
  | [] => patternTest rule (Patterns.digits 0 0)

/-- Whether every parameter is a count. -/
def allCounts (rule : String) (params : List String) : Bool :=
  params.all fun raw => (countBound rule raw).toOption.isSome

/-- The check of a rule with two shapes.  There is no shape for lengths unless
the bounds are counts. -/
def autoCheck (entry : Entry) (bound : Bound) (params : List String) :
    Except ConfigError Check := do
  let number ← numberTest entry.name bound params
  let length ←
    if allCounts entry.name params then
      (lengthTest entry.name bound params).map fun test => some ⟨entry.key, test⟩
    else
      .ok none
  return .auto length ⟨bound.numericKey, number⟩

/-- The options that the flags of a literal pattern set. -/
def LiteralPattern.options (literal : LiteralPattern) : Pattern.Options where
  multiLine := literal.flags.toList.contains 'm'
  dotAll := literal.flags.toList.contains 's'

/-- The compiled form of a literal pattern. -/
def buildLiteral (rule : String) (literal : LiteralPattern) : Except ConfigError Pattern :=
  match Pattern.read? literal.source.toList literal.options with
  | some p => .ok p
  | none => .error (.invalidPattern rule)

/-! ## Validators -/

/-- The validator of a rule other than one on dates. -/
def Entry.build (entry : Entry) (clause : Clause) (literal : Option LiteralPattern) :
    Except ConfigError Validator := do
  let validator (params : List String) (check : Check) : Validator :=
    ⟨entry.name, entry.key, params, none, check⟩
  let expect := expectParams entry.name clause.params
  match entry.family with
  | .required =>
    let _ ← expect .zero
    let p ← buildPattern entry.name Patterns.required
    return validator [] (.test (.pattern p false true))
  | .fixed e =>
    let _ ← expect .zero
    return validator [] (.test (← patternTest entry.name e))
  | .length bound =>
    let params ← expect bound.arity
    return validator params (.test (← lengthTest entry.name bound params))
  | .number bound =>
    let params ← expect bound.arity
    return validator params (.test (← numberTest entry.name bound params))
  | .auto bound =>
    let params ← expect bound.arity
    return validator params (← autoCheck entry bound params)
  | .digits =>
    let params ← expect .one
    return validator params (.test (← digitsTest entry.name params))
  | .digitsBetween =>
    let params ← expect .two
    return validator params (.test (← digitsTest entry.name params))
  | .list negated =>
    let params ← expect .atLeastOne
    let p ← buildPattern entry.name (Patterns.list params)
    return validator [", ".intercalate params] (.test (.pattern p negated false))
  | .matching operator =>
    let params ← expect .oneOrTwo
    let field := params.headD ""
    let label := params.getD 1 field
    return validator [label] (.matching ⟨field, label, operator⟩)
  | .custom =>
    let params ← expect .one
    return validator [] (.callback .custom (params.headD ""))
  | .remote =>
    let params ← expect .one
    return validator [] (.callback .remote (params.headD ""))
  | .literal =>
    let _ ← expect .zero
    match literal with
    | none => .error (.missingLiteral clause.name)
    | some literal =>
      let p ← buildLiteral entry.name literal
      return { validator [literal.source] (.test (.pattern p false false)) with
        alt := literal.alt }

/-- The validator of a rule on dates. -/
def buildDate (name : String) (format : Format) (bound : Option Bound) (params : List String) :
    Except ConfigError Validator := do
  let conditions ← match bound with
    | none => do
      let _ ← expectParams name params .zero
      pure []
    | some bound => do
      let params ← expectParams name params bound.arity
      boundConditions bound (dateBound format name) params
  let p ← buildPattern name format.expr
  return ⟨name, dateMessageKey format bound, params, none, .test (.date format p conditions)⟩

/-- The validator of a clause.  The message text of a literal pattern comes
before that of its clause. -/
def Clause.resolve (clause : Clause) (literal : Option LiteralPattern) :
    Except ConfigError Validator := do
  let name := normalize clause.name
  let validator ← match findEntry name with
    | some entry => entry.build clause literal
    | none =>
      match findDate name with
      | some (format, bound) => buildDate name format bound clause.params
      | none => .error (.unknownRule clause.name)
  return { validator with alt := validator.alt.or clause.alt }

/-- The validators of a chain. -/
structure Compiled where
  validators : List Validator
  required : Bool
  deriving DecidableEq, Repr

/-- The validators that a text writes down. -/
def compile (rules : String) : Except ConfigError Compiled := do
  let chain ← Chain.parse rules
  let validators ← chain.clauses.mapM (·.resolve chain.literal)
  return { validators, required := chain.required }

namespace Compiled

/-- The fields that the validators compare with. -/
def targets (compiled : Compiled) : List Target :=
  compiled.validators.filterMap (·.target?)

/-- The callbacks that the validators ask, each with its rule. -/
def callbacks (compiled : Compiled) : List (String × String) :=
  compiled.validators.filterMap fun v => (v.callback?).map fun (_, name) => (v.rule, name)

end Compiled

end FieldRules.Rule
