import FieldRules.Text.Digits

/-!
# Decimal numbers as text

A decimal number has an optional sign, digits with at most one point among
them, and an optional exponent.  There must be a digit before or after the
point, and one in the exponent.
-/

namespace FieldRules.Number

open Text

/-- The number `± digits · 10 ^ exponent`. -/
structure Decimal where
  negative : Bool
  digits : Nat
  exponent : Int
  deriving DecidableEq, Repr

/-- Whether a sign stands at the start, and the text behind it. -/
def takeSign : List Char → Bool × List Char
  | '-' :: rest => (true, rest)
  | '+' :: rest => (false, rest)
  | text => (false, text)

/-- The exponent of a number, which is zero where none is written. -/
def readExponent : List Char → Option Int
  | [] => some 0
  | c :: rest =>
    if c = 'e' || c = 'E' then
      let (negative, digits) := takeSign rest
      if !digits.isEmpty && digits.all Char.isDigit then
        some (if negative then -(digitsValue digits : Int) else digitsValue digits)
      else
        none
    else
      none

/-- The decimal number that a text writes down. -/
def Decimal.read? (text : List Char) : Option Decimal := do
  let (negative, text) := takeSign text
  let whole := text.takeWhile Char.isDigit
  let text := text.dropWhile Char.isDigit
  let (fraction, text) := match text with
    | '.' :: rest => (rest.takeWhile Char.isDigit, rest.dropWhile Char.isDigit)
    | _ => ([], text)
  let exponent ← readExponent text
  if whole.isEmpty && fraction.isEmpty then none
  else return ⟨negative, digitsValue (whole ++ fraction), exponent - fraction.length⟩

end FieldRules.Number
