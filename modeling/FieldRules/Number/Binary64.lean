import FieldRules.Number.Decimal
import FieldRules.Text.Blank

/-!
# Numbers of double precision

A finite number of double precision is a whole multiple of the least positive
one, `2 ^ -1074`, so it is stored as that multiple and compared exactly.  The
two zeros are one number.

`nearest` rounds a quotient to the closest such number; a tie goes to the one
with the even last place.
-/

namespace FieldRules.Number

/-- A number of double precision: `units` times `2 ^ -1074`. -/
structure Binary64 where
  units : Int
  deriving DecidableEq, Repr

namespace Binary64

/-- The order of the numbers. -/
def compare (a b : Binary64) : Ordering :=
  Ord.compare a.units b.units

/-- The quotient as a whole number; a tie goes to the even neighbour. -/
def roundQuotient (num den : Nat) : Nat :=
  let quotient := num / den
  let rest := num % den
  if 2 * rest < den || (2 * rest == den && quotient % 2 == 0) then quotient else quotient + 1

/-- How many of the last binary places of a number are lost to the precision of 53 places. -/
def lostPlaces (n : Nat) : Nat :=
  n.log2 - 52

/-- The units of the number closest to the quotient, which is measured in units. -/
def nearest (num den : Nat) : Nat :=
  let lost := lostPlaces (num / den)
  roundQuotient num (den * Nat.pow 2 lost) * Nat.pow 2 lost

/-- Every finite number has fewer units. -/
def unitsLimit : Nat := Nat.pow 2 2098

/-- The number of units in one. -/
def unitsPerOne : Nat := Nat.pow 2 1074

/-- The units of `digits · 10 ^ exponent`, unless that is out of range.  A large
exponent is decided without working out the power. -/
def unitsOfDecimal? (digits : Nat) (exponent : Int) : Option Nat :=
  if digits = 0 then some 0
  else if exponent > 310 then none
  else
    let units :=
      if exponent ≥ 0 then nearest (digits * Nat.pow 10 exponent.toNat * unitsPerOne) 1
      else if digits.log2 + 1077 < 3 * (-exponent).toNat then 0
      else nearest (digits * unitsPerOne) (Nat.pow 10 (-exponent).toNat)
    if units < unitsLimit then some units else none

/-- The closest number to a decimal one, if it is in range. -/
def ofDecimal? (d : Decimal) : Option Binary64 :=
  (unitsOfDecimal? d.digits d.exponent).map fun units =>
    ⟨if d.negative then -(units : Int) else units⟩

end Binary64

/-- The finite number that a text writes down, with blanks around it allowed. -/
def parse (text : String) : Option Binary64 :=
  (Decimal.read? (Text.trim text.toList)).bind Binary64.ofDecimal?

end FieldRules.Number
