/-!
# Whole numbers in decimal digits
-/

namespace FieldRules.Text

/-- The value of a row of decimal digits. -/
def digitsValue (digits : List Char) : Nat :=
  digits.foldl (fun n c => 10 * n + (c.toNat - '0'.toNat)) 0

/-- The number that a text writes down: decimal digits, with or without a plus
sign, of a value below `limit`. -/
def unsigned? (limit : Nat) (cs : List Char) : Option Nat :=
  let digits := match cs with
    | '+' :: rest => rest
    | _ => cs
  if !digits.isEmpty && digits.all Char.isDigit && digitsValue digits < limit then
    some (digitsValue digits)
  else
    none

/-- Numbers of 32 bits are below this bound. -/
def wordLimit : Nat := Nat.pow 2 32

/-- Counts are below this bound. -/
def countLimit : Nat := Nat.pow 2 64

end FieldRules.Text
