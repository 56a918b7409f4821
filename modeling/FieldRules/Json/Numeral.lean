import FieldRules.Number.Shortest

/-!
# Numbers in JSON

A numeral is kept as it was written.  Without a fraction and an exponent it is
a whole number, if it fits into 64 bits; every other numeral, and minus zero,
is a number of double precision.

The double is found in two roundings: the digits that fit into 64 bits are
rounded first, and the result is multiplied or divided by a rounded power of
ten.  The digits that do not fit only count for the magnitude.
-/

namespace FieldRules

open Number Text

/-- A number as it is written: `-`, digits, fraction digits, exponent. -/
structure Json.Numeral where
  negative : Bool
  whole : List Char
  fraction : Option (List Char)
  exponent : Option Int
  deriving DecidableEq, Repr

namespace Json.Numeral

/-- Whether neither a fraction nor an exponent is written. -/
def isWhole (n : Numeral) : Bool :=
  n.fraction.isNone && n.exponent.isNone

/-- The value of a whole number without a sign that fits into 64 bits. -/
def natural? (n : Numeral) : Option Nat :=
  if n.isWhole && !n.negative && digitsValue n.whole < countLimit then
    some (digitsValue n.whole)
  else
    none

/-- The value of a whole number that fits into 64 bits, with or without a sign. -/
def integer? (n : Numeral) : Option Int :=
  if n.isWhole then
    let value := digitsValue n.whole
    if n.negative then
      if 0 < value && value ≤ Nat.pow 2 63 then some (-(value : Int)) else none
    else if value < countLimit then some (value : Int)
    else none
  else
    none

/-- The significand with as many digits as fit, and the digits left over. -/
def takeFitting : Nat → List Char → Nat × List Char
  | significand, [] => (significand, [])
  | significand, c :: rest =>
    let next := 10 * significand + (c.toNat - '0'.toNat)
    if next < countLimit then takeFitting next rest else (significand, c :: rest)

/-- The units of a whole number. -/
def unitsOfNat (n : Nat) : Nat :=
  Binary64.nearest (n * Binary64.unitsPerOne) 1

/-- The units of `units / 10 ^ exponent`, dividing by at most `10 ^ 308` at a time. -/
def divideByPower : Nat → Nat → Nat → Nat
  | 0, _, _ => 0
  | steps + 1, units, exponent =>
    let divide (units exponent : Nat) :=
      Binary64.nearest (units * Binary64.unitsPerOne) (unitsOfNat (Nat.pow 10 exponent))
    if exponent ≤ 308 then divide units exponent
    else divideByPower steps (divide units 308) (exponent - 308)

/-- The units of the double closest to the numeral, if it is in range. -/
def units? (n : Numeral) : Option Nat :=
  let (significand, dropped) := takeFitting 0 n.whole
  let fraction := n.fraction.getD []
  let (significand, unread) := takeFitting significand fraction
  let exponent := (n.exponent.getD 0) + dropped.length - (fraction.length - unread.length : Nat)
  let units := unitsOfNat significand
  if units = 0 then some 0
  else if exponent > 308 then none
  else if exponent ≥ 0 then
    let product := Binary64.nearest (units * unitsOfNat (Nat.pow 10 exponent.toNat))
      Binary64.unitsPerOne
    if product < Binary64.unitsLimit then some product else none
  else
    some (divideByPower 4 units (-exponent).toNat)

/-- The text of the number, in the form that a value is printed in. -/
def render (n : Numeral) : String :=
  match n.integer? with
  | some value => toString value
  | none =>
    match n.units? with
    | some units => Binary64.render n.negative units
    | none => "null"

/-- The numeral of a whole number. -/
def ofInt (value : Int) : Numeral where
  negative := value < 0
  whole := (toString value.natAbs).toList
  fraction := none
  exponent := none

end Json.Numeral

end FieldRules
