/-!
# Places of a text

A text of `n` characters has `n + 1` places: place `i` is the one behind its
first `i` characters.  A set of places is a natural number whose bit `i` tells
whether place `i` belongs to it, so that whole sets are joined, cut and moved at
once.

* `testBit_ofList`, `testBit_next`, `testBit_without` and `testBit_all` say
  which places belong to the sets that are built here.
-/

namespace FieldRules.Pattern

/-- A set of places. -/
abbrev Places := Nat

namespace Places

/-- The places whose entry in the list is true. -/
def ofList : List Bool → Places
  | [] => 0
  | b :: rest => 2 * ofList rest + b.toNat

/-- The places one character further on. -/
def next (set : Places) : Places := 2 * set

/-- The places of the left set that the right one lacks. -/
def without (left right : Places) : Places := (left ||| right) ^^^ right

/-- All places of a text with `n` characters. -/
def all (n : Nat) : Places := ofList (List.replicate (n + 1) true)

theorem testBit_ofList (bs : List Bool) (i : Nat) :
    (ofList bs).testBit i = bs.getD i false := by
  induction bs generalizing i with
  | nil => simp [ofList]
  | cons b rest ih =>
    cases i with
    | zero => cases b <;> simp [ofList, Nat.testBit_zero]
    | succ i =>
      have half : (2 * ofList rest + b.toNat) / 2 = ofList rest := by
        have cut (n m : Nat) (h : m ≤ 1) : (2 * n + m) / 2 = n := by omega
        exact cut _ _ b.toNat_le
      rw [ofList, Nat.testBit_succ, half, ih]
      simp

theorem testBit_next (set : Places) (i : Nat) :
    set.next.testBit i = (decide (0 < i) && set.testBit (i - 1)) := by
  cases i with
  | zero => simp [next, Nat.testBit_zero]
  | succ i => rw [next, Nat.testBit_succ]; simp

theorem testBit_without (left right : Places) (i : Nat) :
    (left.without right).testBit i = (left.testBit i && !right.testBit i) := by
  rw [without, Nat.testBit_xor, Nat.testBit_or]
  cases left.testBit i <;> cases right.testBit i <;> rfl

theorem testBit_all (n i : Nat) : (all n).testBit i = decide (i ≤ n) := by
  rw [all, testBit_ofList, List.getD_eq_getElem?_getD, List.getElem?_replicate]
  by_cases h : i < n + 1
  · simp [h, Nat.le_of_lt_succ h]
  · simp [h, show ¬i ≤ n by omega]

end Places

end FieldRules.Pattern
