import FieldRules.Date.Format
import FieldRules.Error
import FieldRules.Operator
import FieldRules.Rule.Keyword
import FieldRules.Rule.Patterns

/-!
# The rules and their keywords

A `Family` says how the parameters of a rule become a check.  The table
`entries` lists every rule with its keywords, its family and the key of its
message; the date rules are put together from the name of a format and a
bound.
-/

namespace FieldRules.Rule

open Date Pattern

/-- Which bounds a rule carries. -/
inductive Bound where
  | exact
  | min
  | max
  | between
  deriving DecidableEq, Repr

/-- How many parameters the bounds need. -/
def Bound.arity : Bound → Arity
  | between => .two
  | _ => .one

/-- How the parameters of a rule become a check. -/
inductive Family where
  | required
  | fixed (expr : Expr)
  | length (bound : Bound)
  | number (bound : Bound)
  | auto (bound : Bound)
  | digits
  | digitsBetween
  | list (negated : Bool)
  | matching (operator : Operator)
  | custom
  | remote
  | literal
  deriving DecidableEq, Repr

/-- A rule: its keyword, other keywords for it, its family and its message key. -/
structure Entry where
  name : String
  aliases : List String
  family : Family
  key : String
  deriving Repr

/-- The rules other than those on dates. -/
def entries : List Entry :=
  [⟨"required", [], .required, "INVALID_REQUIRED"⟩,
    ⟨"accepted", [], .fixed Patterns.accepted, "INVALID_ACCEPTED"⟩,
    ⟨"alpha", [], .fixed Patterns.alpha, "INVALID_ALPHA"⟩,
    ⟨"alpha_spaces", ["alpha_space"], .fixed Patterns.alphaSpaces, "INVALID_ALPHA_SPACE"⟩,
    ⟨"alpha_num", [], .fixed Patterns.alphaNum, "INVALID_ALPHA_NUM"⟩,
    ⟨"alpha_num_spaces", ["alpha_num_space"], .fixed Patterns.alphaNumSpaces,
      "INVALID_ALPHA_NUM_SPACE"⟩,
    ⟨"alpha_dash", [], .fixed Patterns.alphaDash, "INVALID_ALPHA_DASH"⟩,
    ⟨"alpha_dash_spaces", ["alpha_dash_space"], .fixed Patterns.alphaDashSpaces,
      "INVALID_ALPHA_DASH_SPACE"⟩,
    ⟨"exact_len", [], .length .exact, "INVALID_EXACT_LEN"⟩,
    ⟨"min_len", [], .length .min, "INVALID_MIN_CHAR"⟩,
    ⟨"max_len", [], .length .max, "INVALID_MAX_CHAR"⟩,
    ⟨"between_len", [], .length .between, "INVALID_BETWEEN_CHAR"⟩,
    ⟨"min_num", [], .number .min, "INVALID_MIN_NUM"⟩,
    ⟨"max_num", [], .number .max, "INVALID_MAX_NUM"⟩,
    ⟨"between_num", [], .number .between, "INVALID_BETWEEN_NUM"⟩,
    ⟨"size", [], .auto .exact, "INVALID_EXACT_LEN"⟩,
    ⟨"min", [], .auto .min, "INVALID_MIN_CHAR"⟩,
    ⟨"max", [], .auto .max, "INVALID_MAX_CHAR"⟩,
    ⟨"between", ["range"], .auto .between, "INVALID_BETWEEN_CHAR"⟩,
    ⟨"boolean", [], .fixed Patterns.boolean, "INVALID_BOOLEAN"⟩,
    ⟨"credit_card", [], .fixed Patterns.creditCard, "INVALID_CREDIT_CARD"⟩,
    ⟨"email", ["email_address"], .fixed Patterns.email, "INVALID_EMAIL"⟩,
    ⟨"iban", [], .fixed Patterns.iban, "INVALID_IBAN"⟩,
    ⟨"phone", [], .fixed Patterns.phone, "INVALID_PHONE"⟩,
    ⟨"time", [], .fixed Patterns.time, "INVALID_TIME"⟩,
    ⟨"url", [], .fixed Patterns.url, "INVALID_URL"⟩,
    ⟨"ipv4", ["ip"], .fixed Patterns.ipv4, "INVALID_IPV4"⟩,
    ⟨"ipv6", [], .fixed Patterns.ipv6, "INVALID_IPV6"⟩,
    ⟨"int", ["integer"], .fixed Patterns.integer, "INVALID_INTEGER"⟩,
    ⟨"int_signed", ["integer_signed"], .fixed Patterns.integerSigned,
      "INVALID_INTEGER_SIGNED"⟩,
    ⟨"float", [], .fixed Patterns.float, "INVALID_FLOAT"⟩,
    ⟨"float_signed", [], .fixed Patterns.floatSigned, "INVALID_FLOAT_SIGNED"⟩,
    ⟨"numeric", [], .fixed Patterns.numeric, "INVALID_NUMERIC"⟩,
    ⟨"numeric_signed", [], .fixed Patterns.numericSigned, "INVALID_NUMERIC_SIGNED"⟩,
    ⟨"digits", [], .digits, "INVALID_DIGITS"⟩,
    ⟨"digits_between", [], .digitsBetween, "INVALID_DIGITS_BETWEEN"⟩,
    ⟨"in", ["in_list"], .list false, "INVALID_IN_LIST"⟩,
    ⟨"not_in", ["not_in_list"], .list true, "INVALID_NOT_IN_LIST"⟩,
    ⟨"match", ["same", "match_input"], .matching .eq, "INVALID_INPUT_MATCH"⟩,
    ⟨"different", ["different_input"], .matching .ne, "INVALID_INPUT_DIFFERENT"⟩,
    ⟨"custom", ["javascript"], .custom, "INVALID_CUSTOM"⟩,
    ⟨"remote", [], .remote, "INVALID_REMOTE"⟩,
    ⟨"pattern", ["regex"], .literal, "INVALID_PATTERN"⟩]

/-- The message key of the numeric shape of a rule that has two shapes. -/
def Bound.numericKey : Bound → String
  | exact => "INVALID_EXACT_NUM"
  | min => "INVALID_MIN_NUM"
  | max => "INVALID_MAX_NUM"
  | between => "INVALID_BETWEEN_NUM"

/-- The rule that a keyword names. -/
def findEntry (name : String) : Option Entry :=
  entries.find? fun entry => entry.name == name || entry.aliases.contains name

/-! ## Date rules -/

/-- The bounds of date rules, with their endings in keywords and in message keys. -/
def dateBounds : List (Option Bound × String × String) :=
  [(some .between, "_between", "_BETWEEN"), (some .min, "_min", "_MIN"),
    (some .max, "_max", "_MAX")]

/-- A keyword without the given ending. -/
def dropEnding? (ending keyword : String) : Option String :=
  (Text.dropLead? ending.toList.reverse keyword.toList.reverse).map fun rest =>
    String.ofList rest.reverse

/-- The format and the bounds that a keyword of a date rule names. -/
def findDate (name : String) : Option (Format × Option Bound) :=
  let (stem, bound) :=
    (dateBounds.findSome? fun (bound, ending, _) =>
      (dropEnding? ending name).map fun stem => (stem, bound)).getD (name, none)
  (Format.all.find? (·.stem == stem)).map fun format => (format, bound)

/-- The message key of a format without bounds. -/
def dateKey (format : Format) : String :=
  "INVALID_" ++ format.stem.map Char.toUpper

/-- The message key of a date rule. -/
def dateMessageKey (format : Format) (bound : Option Bound) : String :=
  dateKey format ++ ((dateBounds.find? (·.1 == bound)).map (·.2.2)).getD ""

/-! ## Rules with two bounds -/

/-- Whether rules of the family take two bounds. -/
def Family.isRange : Family → Bool
  | length .between | number .between | auto .between | digitsBetween => true
  | _ => false

/-- How a rule with two bounds is written, if the keyword names one. -/
def rangeSyntax (keyword : String) : Option String :=
  let name := normalize keyword
  match findEntry name with
  | some entry => if entry.family.isRange then some (keyword ++ ":min,max") else none
  | none =>
    match findDate name with
    | some (format, some .between) =>
      some (keyword ++ ":" ++ format.description ++ "," ++ format.description)
    | _ => none

end FieldRules.Rule
