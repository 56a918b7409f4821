import FieldRules.Rule.Family
import FieldRules.Rule.Literal

/-!
# Reading a chain

`Chain.parse` lifts out the literal pattern, cuts the chain at its bars and
reads each clause that is not blank.  A keyword need not be known yet, but a
rule with two bounds must have two parameters.
-/

namespace FieldRules.Rule

open Text

/-- The keyword that makes a field required. -/
def requiredKeyword : String := "required"

/-- A clause without its message text, and the message text.  The marker stands
at the start of the clause or behind a colon. -/
def splitMessage (clause : List Char) : List Char × Option (List Char) :=
  match dropLead? Literal.altMarker clause with
  | some alt => ([], some alt)
  | none =>
    match splitAt? (':' :: Literal.altMarker) clause with
    | some (head, alt) => (head, some alt)
    | none => (clause, none)

/-- The parameters of a clause, without blanks around them and without empty ones. -/
def splitParams (params : List Char) : List String :=
  ((split ',' params).map trim |>.filter (!·.isEmpty)).map String.ofList

/-- The clause that a text without bars writes down. -/
def Clause.read (text : List Char) : Clause :=
  let (head, alt) := splitMessage text
  let (name, params) := match splitOnce (· = ':') head with
    | some (name, params) => (name, splitParams params)
    | none => (head, [])
  ⟨String.ofList (trim name), params, alt.map String.ofList⟩

/-- The clause, unless it is one of a rule with two bounds that has not two parameters. -/
def Clause.checkRange (clause : Clause) : Except ConfigError Clause :=
  match rangeSyntax clause.name with
  | some expected =>
    if clause.params.length = 2 then .ok clause
    else .error (.malformedRange clause.name expected)
  | none => .ok clause

/-- The texts of the clauses of a chain. -/
def clauseTexts (chain : List Char) : List (List Char) :=
  ((split '|' chain).map trim).filter (!·.isEmpty)

/-- The clauses of a chain without a literal pattern. -/
def parseClauses (chain : List Char) : Except ConfigError (List Clause) :=
  (clauseTexts chain).mapM fun text => (Clause.read text).checkRange

/-- The chain that a text writes down. -/
def Chain.parse (rules : String) : Except ConfigError Chain :=
  match Literal.extract rules.toList with
  | .error fault => .error (.malformedLiteral fault)
  | .ok (rest, literal) => do
    let clauses ← parseClauses rest
    return { clauses, literal, required := clauses.any (·.name == requiredKeyword) }

end FieldRules.Rule
