/-!
# Errors

What can go wrong, as causes.  The wording of each cause is given by its
`message`.

* `CallbackError`: a callback is broken, which is not the same as a value that
  it refuses.
* `MessageError`: a message key has no text.
* `ConfigError`: rules, callbacks or messages are set up wrongly.
-/

namespace FieldRules

/-! ## Callbacks -/

/-- Why a callback gave no outcome. -/
inductive CallbackError where
  | failed (reason : String)
  | notRegistered (name : String)
  | unsupportedResult (shown : String)
  deriving DecidableEq, Repr

def CallbackError.message : CallbackError → String
  | failed reason => reason
  | notRegistered name => "no callback registered as '" ++ name ++ "'"
  | unsupportedResult shown => "unsupported result shape: " ++ shown

/-! ## Messages -/

/-- Why a message key has no text. -/
inductive MessageError where
  | missingKey (key : String)
  | backend (reason : String)
  deriving DecidableEq, Repr

def MessageError.message : MessageError → String
  | missingKey key => "No translation for key '" ++ key ++ "'"
  | backend reason => "Translation backend failed: " ++ reason

/-! ## Configuration -/

/-- What is wrong with the clause of a literal pattern. -/
inductive LiteralFault where
  | unclosed (clause : String)
  | missingAssignment
  | missingClosing
  | emptyPattern
  | second
  deriving DecidableEq, Repr

def LiteralFault.message : LiteralFault → String
  | unclosed clause => "missing closing '/' in '" ++ clause ++ "'"
  | missingAssignment => "deprecated regex clause is missing ':='"
  | missingClosing => "deprecated regex clause is missing the closing ':regex'"
  | emptyPattern => "empty regex in deprecated clause"
  | second => "only one literal regex clause is supported per field"

/-- How many parameters a rule expects. -/
inductive Arity where
  | zero
  | one
  | two
  | atLeastOne
  | oneOrTwo
  deriving DecidableEq, Repr

/-- Whether a number of parameters is as expected. -/
def Arity.admits : Arity → Nat → Bool
  | zero, n => n == 0
  | one, n => n == 1
  | two, n => n == 2
  | atLeastOne, n => n ≥ 1
  | oneOrTwo, n => n == 1 || n == 2

def Arity.text : Arity → String
  | zero => "0"
  | one => "1"
  | two => "2"
  | atLeastOne => "at least 1"
  | oneOrTwo => "1 or 2"

/-- What is wrong with a bound. -/
inductive BoundFault where
  | notCount
  | reversed
  | notNumber
  | notDate
  deriving DecidableEq, Repr

def BoundFault.message : BoundFault → String
  | notCount => "expected a non-negative integer"
  | reversed => "upper bound is below lower bound"
  | notNumber => "expected a number"
  | notDate => "expected a date in the rule's format"

/-- A fault in the set-up of rules, callbacks or messages. -/
inductive ConfigError where
  | malformedRange (rule expected : String)
  | malformedLiteral (fault : LiteralFault)
  | missingLiteral (rule : String)
  | unknownRule (rule : String)
  | paramCount (rule : String) (expected : Arity) (actual : Nat)
  | invalidBound (rule value : String) (fault : BoundFault)
  | invalidPattern (rule : String)
  | missingCallback (rule callback : String)
  | callbackFailed (field callback : String) (cause : CallbackError)
  | untranslatable (key : String) (cause : MessageError)
  | missingFieldName
  | unknownField (field : String)
  deriving DecidableEq, Repr

def ConfigError.message : ConfigError → String
  | malformedRange rule expected =>
    "Rule '" ++ rule ++ "' expects exactly two bounds, use the syntax '" ++ expected ++ "'"
  | malformedLiteral fault => "Malformed literal regex clause: " ++ fault.message
  | missingLiteral rule =>
    "Rule '" ++ rule ++ "' requires a literal regex, e.g. 'pattern=/^[a-z]+$/i'"
  | unknownRule rule => "Unknown validation rule '" ++ rule ++ "'"
  | paramCount rule expected actual =>
    "Rule '" ++ rule ++ "' expects " ++ expected.text ++ " parameter(s), got " ++
      toString actual
  | invalidBound rule value fault =>
    "Rule '" ++ rule ++ "' has an invalid bound '" ++ value ++ "': " ++ fault.message
  | invalidPattern rule => "Rule '" ++ rule ++ "' produced an invalid pattern"
  | missingCallback rule callback =>
    "Rule '" ++ rule ++ "' refers to unregistered callback '" ++ callback ++ "'"
  | callbackFailed field callback cause =>
    "Callback '" ++ callback ++ "' for field '" ++ field ++ "' failed: " ++ cause.message
  | untranslatable key cause => "Cannot translate message '" ++ key ++ "': " ++ cause.message
  | missingFieldName => "Validation summary entries require a field name"
  | unknownField field => "Field '" ++ field ++ "' is not registered"

end FieldRules
