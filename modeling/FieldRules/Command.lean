import FieldRules.Definition
import FieldRules.Json.Printer

/-!
# The commands

`check` checks all fields of a definition and lists what is wrong with them,
form by form.  `eval` checks a single value against some rules.

A command ends with code 0 if everything is valid, with 1 if something is not,
and with 2 if it could not be carried out.
-/

namespace FieldRules

namespace Command

/-! ## Results -/

/-- Why a command could not be carried out. -/
inductive Failure where
  | inaccessible (path reason : String)
  | invalidJson
  | config (error : ConfigError)
  deriving DecidableEq, Repr

def Failure.message : Failure → String
  | inaccessible path reason => "Cannot access " ++ path ++ ": " ++ reason
  | invalidJson => "Invalid JSON"
  | config error => error.message

/-- Why a file that does not exist cannot be read. -/
def noSuchFile : String := "No such file or directory (os error 2)"

/-- What a command prints, and the code it ends with. -/
structure Ending where
  code : Nat
  output : String
  error : Option String
  deriving DecidableEq, Repr

namespace Ending

/-- The end of a command that has found whether everything is valid. -/
def found (valid : Bool) (output : String) : Ending :=
  ⟨if valid then 0 else 1, output, none⟩

/-- The end of a command that could not be carried out. -/
def failed (failure : Failure) : Ending :=
  ⟨2, "", some ("Error: " ++ failure.message)⟩

end Ending

/-! ## Checking forms -/

/-- What is wrong with the fields of a form. -/
structure FormResult where
  valid : Bool
  errors : List SummaryEntry
  deriving DecidableEq, Repr

/-- The results of forms. -/
abbrev FormResults := Assoc FormResult

/-- Checks forms in turn, up to the first error. -/
def checkForms : Context → FormResults → List String →
    Except ConfigError (Context × FormResults)
  | c, results, [] => .ok (c, results)
  | c, results, form :: rest =>
    match c.checkForm form with
    | (_, .error e) => .error e
    | (c, .ok valid) => checkForms c (results.put form ⟨valid, c.summary.byForm form⟩) rest

/-- The results with an invalid field that is in no form.  Such fields are
listed under the empty name. -/
def addLoose (results : FormResults) (report : Report) : FormResults :=
  let entry : SummaryEntry := ⟨report.name, none, report.friendlyName, report.message⟩
  let errors := ((results.find? "").map (·.errors)).getD []
  results.put "" ⟨false, errors ++ [entry]⟩

/-- Checks the fields that are in no form in turn, up to the first error. -/
def checkLoose : Context → FormResults → List String → Except ConfigError FormResults
  | _, results, [] => .ok results
  | c, results, field :: rest =>
    match c.validate field with
    | (_, .error e) => .error e
    | (c, .ok report) =>
      checkLoose c (if report.valid then results else addLoose results report) rest

/-- The results of the forms of a definition, in the order of their names. -/
def results (definition : Definition) : Except ConfigError FormResults := do
  let c ← definition.context
  let (c, results) ← checkForms c [] c.forms.names
  let results ← checkLoose c results definition.loose
  return results.mergeSort fun a b => a.1 ≤ b.1

/-! ## Printing -/

/-- The result of a form as JSON. -/
def FormResult.toJson (result : FormResult) : Json :=
  .object [("valid", .bool result.valid), ("errors", .array (result.errors.map (·.toJson)))]

/-- The results as JSON. -/
def renderJson (results : FormResults) : String :=
  (Json.object (results.map fun (form, result) => (form, result.toJson))).pretty ++ "\n"

/-- The result of a form as lines of text. -/
def renderForm (form : String) (result : FormResult) : String :=
  let label := if form.isEmpty then "(no form)" else form
  let verdict := if result.valid then "valid" else "invalid"
  let lines := result.errors.map fun entry =>
    "  " ++ entry.friendlyName ++ ": " ++ entry.message ++ "\n"
  label ++ ": " ++ verdict ++ "\n" ++ String.join lines

/-- The results as lines of text. -/
def renderText (results : FormResults) : String :=
  String.join (results.map fun (form, result) => renderForm form result)

/-! ## The commands -/

/-- Checks the definition that a text holds. -/
def check (json : Bool) (text : String) : Ending :=
  match Definition.parse? text with
  | none => .failed .invalidJson
  | some definition =>
    match results definition with
    | .error e => .failed (.config e)
    | .ok results =>
      .found (results.all (·.2.valid))
        (if json then renderJson results else renderText results)

/-- Checks a value against rules. -/
def eval (rules : String) (value : Option String) : Ending :=
  let c := Context.start Message.english.translator {} []
  match c.register { name := "value", rules, value } with
  | (_, .error e) => .failed (.config e)
  | (c, .ok ()) =>
    match c.validate "value" with
    | (_, .error e) => .failed (.config e)
    | (_, .ok report) =>
      .found report.valid
        (if report.valid then "valid\n" else "invalid: " ++ report.message ++ "\n")

/-! ## Arguments -/

/-- What the arguments ask for. -/
inductive Request where
  | check (json : Bool) (path : String)
  | eval (rules : String) (value : Option String)
  deriving DecidableEq, Repr

/-- The arguments of `check`: a path, and perhaps `--json` on either side. -/
def parseCheck : List String → Option Request
  | ["--json", path] | [path, "--json"] | ["--json", "--", path] => some (.check true path)
  | [path] | ["--", path] => some (.check false path)
  | _ => none

/-- The arguments of `eval`: rules, and perhaps a value. -/
def parseEval : List String → Option Request
  | "--" :: [rules] | [rules] => some (.eval rules none)
  | "--" :: [rules, value] | [rules, value] => some (.eval rules (some value))
  | _ => none

/-- What the arguments ask for, if they are understood. -/
def parse : List String → Option Request
  | "check" :: rest => parseCheck rest
  | "eval" :: rest => parseEval rest
  | _ => none

/-- How to use the commands. -/
def usage : String :=
  "Usage: fieldcheck check [--json] FILE\n       fieldcheck eval [--] RULES [VALUE]"

end Command

end FieldRules
