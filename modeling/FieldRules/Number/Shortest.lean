import FieldRules.Number.Binary64

/-!
# Shortest decimal text

`Binary64.shortest` finds the decimal number with the fewest digits that rounds
to a given positive number; of two such numbers the closer one, and on a tie
the one with the even last digit.  `Binary64.render` writes it down:
positionally between `1e-5` and `1e16`, else with an exponent and its sign, and
always so that it reads as a fraction.
-/

namespace FieldRules.Number.Binary64

/-- Whether `digits · 10 ^ exponent` rounds to the number with the given units.
The numbers that do so reach halfway to either neighbour, and to the middle
itself when the last binary place is even. -/
def readsBack (units digits : Nat) (exponent : Int) : Bool :=
  let lost := lostPlaces units
  let gap := Nat.pow 2 lost
  let lowGap := if lost > 0 && units == Nat.pow 2 (52 + lost) then gap / 2 else gap
  let even := units / gap % 2 == 0
  let scale := Nat.pow 10 (-exponent).toNat
  let value := 2 * digits * Nat.pow 10 exponent.toNat * unitsPerOne
  let low := (2 * units - lowGap) * scale
  let high := (2 * units + gap) * scale
  if even then low ≤ value && value ≤ high else low < value && value < high

/-- The largest multiple of `10 ^ exponent` that is not above the number. -/
def floorOn (units : Nat) (exponent : Int) : Nat :=
  units * Nat.pow 10 (-exponent).toNat / (Nat.pow 10 exponent.toNat * unitsPerOne)

/-- The better of two neighbours on the grid of `10 ^ exponent`: the closer one. -/
def closerOn (units floor : Nat) (exponent : Int) : Nat :=
  let scale := Nat.pow 10 (-exponent).toNat
  let place (d : Nat) := d * Nat.pow 10 exponent.toNat * unitsPerOne
  let below := units * scale - place floor
  let above := place (floor + 1) - units * scale
  if below < above || (below == above && floor % 2 == 0) then floor else floor + 1

/-- The candidate on the grid of `10 ^ exponent`, if one reads back. -/
def candidateOn (units : Nat) (exponent : Int) : Option Nat :=
  let floor := floorOn units exponent
  match readsBack units floor exponent, readsBack units (floor + 1) exponent with
  | true, true => some (closerOn units floor exponent)
  | true, false => some floor
  | false, true => some (floor + 1)
  | false, false => none

/-- The number of decimal places before the point. -/
def decimalPlaces (units : Nat) : Int :=
  let estimate := ((units.log2 : Int) - 1074) * 30103 / 100000
  let isBelow (places : Int) :=
    units * Nat.pow 10 (-places).toNat < Nat.pow 10 places.toNat * unitsPerOne
  (([-1, 0, 1, 2].map (estimate + ·)).find? isBelow).getD (estimate + 3)

/-- The shortest decimal number that reads back: its digits and its exponent. -/
def shortest (units : Nat) : Nat × Int :=
  let places := decimalPlaces units
  let candidates := (List.range 17).findSome? fun (n : Nat) =>
    let exponent := places - (n + 1 : Nat)
    (candidateOn units exponent).map fun digits => (digits, exponent)
  candidates.getD (0, 0)

/-- The digits without the zeros at their end, and the exponent that makes up for them. -/
def dropZeros : Nat → Nat → Int → Nat × Int
  | 0, digits, exponent => (digits, exponent)
  | fuel + 1, digits, exponent =>
    if digits % 10 == 0 && digits != 0 then dropZeros fuel (digits / 10) (exponent + 1)
    else (digits, exponent)

/-- The text of a number of the given sign. -/
def render (negative : Bool) (units : Nat) : String :=
  let sign := if negative then "-" else ""
  if units = 0 then
    sign ++ "0.0"
  else
    let (digits, exponent) := shortest units
    let (digits, exponent) := dropZeros 20 digits exponent
    let text := (toString digits).toList
    let point := (text.length : Int) + exponent
    let zeros (n : Int) := List.replicate n.toNat '0'
    let body :=
      if 0 ≤ exponent && point ≤ 16 then
        text ++ zeros exponent ++ ['.', '0']
      else if 0 < point && point ≤ 16 then
        text.take point.toNat ++ ['.'] ++ text.drop point.toNat
      else if -5 < point && point ≤ 0 then
        ['0', '.'] ++ zeros (-point) ++ text
      else
        let direction := if 0 < point then '+' else '-'
        let exponentText := direction :: (toString (point - 1).natAbs).toList
        match text with
        | [d] => d :: 'e' :: exponentText
        | d :: rest => d :: '.' :: rest ++ 'e' :: exponentText
        | [] => []
    sign ++ String.ofList body

end FieldRules.Number.Binary64
