import FieldRules.Date.DateTime
import FieldRules.Pattern.Syntax
import FieldRules.Text.Blank
import FieldRules.Text.Digits
import FieldRules.Text.Split

/-!
# Formats of dates

A format fixes the order of year, month and day and the number of digits of
the year.  `Format.expr` is the pattern of a well-formed text, and
`Format.decompose` takes a text apart: the date's three parts stand between
two equal separators, and a time may follow behind a blank or a `T`.

A year of two digits below 50 belongs to the years from 2000, any other to
those from 1900.
-/

namespace FieldRules.Date

open Text Pattern

/-- The order of the parts of a date. -/
inductive Order where
  | iso
  | us
  | euro
  deriving DecidableEq, Repr

/-- The number of digits of a year. -/
inductive YearDigits where
  | any
  | long
  | short
  deriving DecidableEq, Repr

/-- A format of dates. -/
structure Format where
  order : Order
  year : YearDigits
  deriving DecidableEq, Repr

namespace Format

/-- The formats that rules know. -/
def all : List Format :=
  [⟨.iso, .long⟩, ⟨.us, .any⟩, ⟨.us, .long⟩, ⟨.us, .short⟩, ⟨.euro, .any⟩, ⟨.euro, .long⟩,
    ⟨.euro, .short⟩]

/-- The keyword of the rule without bounds. -/
def stem (f : Format) : String :=
  match f.order, f.year with
  | .iso, _ => "date_iso"
  | .us, .any => "date_us"
  | .us, .long => "date_us_long"
  | .us, .short => "date_us_short"
  | .euro, .any => "date_euro"
  | .euro, .long => "date_euro_long"
  | .euro, .short => "date_euro_short"

/-- The format as it is described in messages. -/
def description (f : Format) : String :=
  match f.order, f.year with
  | .iso, _ => "yyyy-mm-dd"
  | .us, .any => "mm/dd/yy or mm/dd/yyyy"
  | .us, .long => "mm/dd/yyyy"
  | .us, .short => "mm/dd/yy"
  | .euro, .any => "dd/mm/yy or dd/mm/yyyy"
  | .euro, .long => "dd/mm/yyyy"
  | .euro, .short => "dd/mm/yy"

/-! ## The pattern of a format -/

/-- A day of a month. -/
def dayExpr : Expr :=
  .choice [
    .seqOf [.rep (.char '0') .optional, .oneOf [.interval '1' '9']],
    .seqOf [.oneOf [.char '1', .char '2'], .digit],
    .seqOf [.char '3', .oneOf [.char '0', .char '1']]]

/-- A month of a year. -/
def monthExpr : Expr :=
  .choice [
    .seqOf [.rep (.char '0') .optional, .oneOf [.interval '1' '9']],
    .seqOf [.char '1', .oneOf [.interval '0' '2']]]

/-- A separator between the parts of a date. -/
def separatorExpr : Expr :=
  .oneOf [.char '-', .char '/', .char '.']

/-- A colon and two digits below 60. -/
def sixtiethExpr : Expr :=
  .seqOf [.char ':', .oneOf [.interval '0' '5'], .digit]

/-- An hour of a day. -/
def hourExpr : Expr :=
  .choice [
    .seqOf [.rep (.oneOf [.char '0', .char '1']) .optional, .digit],
    .seqOf [.char '2', .oneOf [.interval '0' '3']]]

/-- A time of day that may be left out. -/
def timeExpr : Expr :=
  .rep
    (.capture (.seqOf [.oneOf [.char ' ', .char 'T'], hourExpr, sixtiethExpr,
      .rep (.capture sixtiethExpr) .optional]))
    .optional

/-- The year of a format. -/
def yearExpr (f : Format) : Expr :=
  let digits (n : Nat) := Expr.rep .digit (.exactly n)
  match f.order, f.year with
  | .iso, _ | _, .long => digits 4
  | _, .short => digits 2
  | _, .any => .choice [digits 4, digits 2]

/-- The texts that are well formed in a format. -/
def expr (f : Format) : Expr :=
  let parts (a b c : Expr) : Expr :=
    .whole (.seqOf [a, separatorExpr, b, separatorExpr, c, timeExpr])
  match f.order with
  | .iso => parts f.yearExpr monthExpr dayExpr
  | .us => parts monthExpr dayExpr f.yearExpr
  | .euro => parts dayExpr monthExpr f.yearExpr

/-! ## Taking a text apart -/

/-- The characters that may separate the parts of a date. -/
def separators : List Char := ['-', '/', '.']

/-- The characters that may stand before a time. -/
def timeMarks : List Char := [' ', 'T', 't']

/-- A part of a date or a time. -/
def component? (text : List Char) : Option Nat :=
  unsigned? wordLimit text

/-- The year that the digits stand for. -/
def parseYear (f : Format) (digits : List Char) : Option Nat :=
  if !digits.all Char.isDigit then none
  else
    let value := digitsValue digits
    match digits.length, f.year with
    | 4, .long | 4, .any => some value
    | 2, .short | 2, .any =>
      if f.order = .iso then none
      else some (if value < 50 then 2000 + value else 1900 + value)
    | _, _ => none

/-- Hour, minute and second; the second may be left out. -/
def parseTime (text : List Char) : Option (Nat × Nat × Nat) := do
  match split ':' text with
  | [hour, minute] => return (← component? hour, ← component? minute, 0)
  | [hour, minute, second] =>
    return (← component? hour, ← component? minute, ← component? second)
  | _ => none

/-- The three pieces between the separators of a date, the first separator deciding. -/
def datePieces (date : List Char) : Option (List Char × List Char × List Char) := do
  let separator ← date.find? (· ∈ separators)
  match split separator date with
  | [a, b, c] => return (a, b, c)
  | _ => none

/-- The components of a text, whether or not the instant exists. -/
def decomposeChars (f : Format) (text : List Char) : Option DateTime := do
  let text := trim text
  let (date, time) := match splitOnce (· ∈ timeMarks) text with
    | some (date, time) => (date, some (trim time))
    | none => (text, none)
  let (a, b, c) ← datePieces date
  let (year, month, day) := match f.order with
    | .iso => (a, b, c)
    | .us => (c, a, b)
    | .euro => (c, b, a)
  let (hour, minute, second) ← match time with
    | some time => parseTime time
    | none => some (0, 0, 0)
  return {
    year := ← f.parseYear year
    month := ← component? month
    day := ← component? day
    hour, minute, second }

/-- The components of a text, whether or not the instant exists. -/
def decompose (f : Format) (text : String) : Option DateTime :=
  f.decomposeChars text.toList

/-- The instant that a text stands for. -/
def instant? (f : Format) (text : String) : Option DateTime :=
  (f.decompose text).filter DateTime.isReal

end Format

end FieldRules.Date
