import FieldRules.Assoc
import FieldRules.Error
import FieldRules.Message.Template
import FieldRules.Rule.Family

/-!
# Message tables and translators

A `Translator` gives the text of a message key, with the parameters filled in,
or fails.  A `Table` of templates is one kind of translator; `english` holds a
template for the message of every rule.
-/

namespace FieldRules.Message

/-- What gives messages their text.  A translator answers at once, and by the key and the
parameters only, whatever has happened before. -/
structure Translator where
  resolve : (key : String) → (params : List String) → Except MessageError String

/-- Templates by message key. -/
structure Table where
  templates : Assoc String
  deriving DecidableEq, Repr

namespace Table

/-- The table without templates. -/
def empty : Table := ⟨[]⟩

/-- The template of a key. -/
def template? (table : Table) (key : String) : Option String :=
  table.templates.find? key

/-- The table with a template for a key. -/
def withMessage (table : Table) (key template : String) : Table :=
  ⟨table.templates.put key template⟩

/-- The table with several templates set one after the other. -/
def withMessages (table : Table) (messages : List (String × String)) : Table :=
  messages.foldl (fun table (key, template) => table.withMessage key template) table

/-- Both tables; where both have a template, the second one's counts. -/
def merge (table other : Table) : Table :=
  table.withMessages other.templates

/-- The number of templates. -/
def size (table : Table) : Nat :=
  table.templates.length

/-- The text of a key. -/
def resolve (table : Table) (key : String) (params : List String) :
    Except MessageError String :=
  match table.template? key with
  | some template => .ok (fill template params)
  | none => .error (.missingKey key)

/-- The table as a translator. -/
def translator (table : Table) : Translator := ⟨table.resolve⟩

end Table

/-! ## The English templates -/

/-- The templates of the rules other than those on dates. -/
def englishTemplates : List (String × String) :=
  [("INVALID_ACCEPTED", "Must be accepted."),
    ("INVALID_ALPHA", "May only contain letters."),
    ("INVALID_ALPHA_SPACE", "May only contain letters and spaces."),
    ("INVALID_ALPHA_NUM", "May only contain letters and numbers."),
    ("INVALID_ALPHA_NUM_SPACE", "May only contain letters, numbers and spaces."),
    ("INVALID_ALPHA_DASH", "May only contain letters, numbers and dashes."),
    ("INVALID_ALPHA_DASH_SPACE", "May only contain letters, numbers, dashes and spaces."),
    ("INVALID_BETWEEN_CHAR", "Text must be between :param and :param characters in length."),
    ("INVALID_BETWEEN_NUM", "Needs to be a numeric value, between :param and :param."),
    ("INVALID_BOOLEAN", "May only contain a true or false value."),
    ("INVALID_CREDIT_CARD", "Must be a valid credit card number."),
    ("INVALID_CUSTOM", "Failed custom validation."),
    ("INVALID_DIGITS", "Must be :param digits."),
    ("INVALID_DIGITS_BETWEEN", "Must be between :param and :param digits."),
    ("INVALID_EMAIL", "Must be a valid email address."),
    ("INVALID_EXACT_LEN", "Must have a length of exactly :param characters."),
    ("INVALID_EXACT_NUM", "Must be exactly :param."),
    ("INVALID_FLOAT", "May only contain a positive float value (integer excluded)."),
    ("INVALID_FLOAT_SIGNED",
      "May only contain a positive or negative float value (integer excluded)."),
    ("INVALID_IBAN", "Must be a valid IBAN."),
    ("INVALID_IN_LIST", "Must be a choice inside this list: (:param)."),
    ("INVALID_INPUT_DIFFERENT", "Field must be different from specified field \":param\"."),
    ("INVALID_INPUT_MATCH", "Confirmation field does not match specified field \":param\"."),
    ("INVALID_INTEGER", "Must be a positive integer."),
    ("INVALID_INTEGER_SIGNED", "Must be a positive or negative integer."),
    ("INVALID_IPV4", "Must be a valid IP (IPV4)."),
    ("INVALID_IPV6", "Must be a valid IP (IPV6)."),
    ("INVALID_MAX_CHAR", "May not be greater than :param characters."),
    ("INVALID_MAX_NUM", "Needs to be a numeric value, equal to, or lower than :param."),
    ("INVALID_MIN_CHAR", "Must be at least :param characters."),
    ("INVALID_MIN_NUM", "Needs to be a numeric value, equal to, or higher than :param."),
    ("INVALID_NOT_IN_LIST", "Must be a choice outside this list: (:param)."),
    ("INVALID_NUMERIC", "Must be a positive number."),
    ("INVALID_NUMERIC_SIGNED", "Must be a positive or negative number."),
    ("INVALID_PATTERN", "Must be following this format: :param."),
    ("INVALID_PHONE", "Must be a valid phone number."),
    ("INVALID_REMOTE", "Failed remote validation."),
    ("INVALID_REQUIRED", "Field is required."),
    ("INVALID_TIME", "Must be a valid time format (hh:mm) OR (hh:mm:ss)."),
    ("INVALID_URL", "Must be a valid URL.")]

/-- The templates of the date rules of a format. -/
def dateTemplates (format : Date.Format) : List (String × String) :=
  let described := "valid date format (" ++ format.description ++ ")"
  [(Rule.dateMessageKey format none, "Must be a " ++ described ++ "."),
    (Rule.dateMessageKey format (some .min),
      "Needs to be a " ++ described ++ ", equal to, or after :param."),
    (Rule.dateMessageKey format (some .max),
      "Needs to be a " ++ described ++ ", equal to, or before :param."),
    (Rule.dateMessageKey format (some .between),
      "Needs to be a " ++ described ++ " between :param and :param.")]

/-- A template for the message of every rule. -/
def english : Table :=
  ⟨englishTemplates ++ Date.Format.all.flatMap dateTemplates⟩

end FieldRules.Message
