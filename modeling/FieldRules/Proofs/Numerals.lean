import Mathlib.Algebra.GroupWithZero.Nat
import Mathlib.Data.List.Basic
import Mathlib.Data.List.Induction
import FieldRules.Pattern.CharSet
import FieldRules.Text.Blank
import FieldRules.Text.Digits

/-!
# Rows of digits

Patterns know the decimal digits of all scripts, numbers are read from ASCII
digits only.  `IsRow` is what a pattern tells of a row of digits, `IsNumeral`
what it takes to have a value.

* `notBlank_of_digit`, `toNat_of_digit`: what is certain of a digit of any script.
* `digitsValue_lt`: a numeral is below the power of ten with its length.
* `unsigned?_iff_looseNumeral`: which texts are read as numbers.
* `unsigned?_eq_some_iff`: a row of digits is read as a number just if it is a numeral.
-/

namespace FieldRules.Text

open Unicode Pattern

variable {a b c : Char} {lengths : List Nat} {text : List Char} {n : Nat}

/-! ## Digits -/

theorem isDigit_iff : c.isDigit = true ↔ 48 ≤ c.toNat ∧ c.toNat ≤ 57 := by
  simp only [Char.isDigit, Bool.and_eq_true, decide_eq_true_iff, ge_iff_le,
    UInt32.le_iff_toNat_le]
  rfl

/-- An ASCII digit is a digit. -/
theorem digit_contains_of_isDigit (hdigit : c.isDigit = true) :
    CharSet.digit.contains c = true := by
  obtain ⟨hlow, hhigh⟩ := isDigit_iff.1 hdigit
  rw [CharSet.digit, CharSet.contains, Category.decimalNumber, Ranges.contains,
    if_neg (Nat.not_lt.2 hlow), if_pos hhigh]

theorem exists_interval_of_digit (hdigit : CharSet.digit.contains c = true) :
    ∃ interval ∈ Category.decimalNumber, interval.1 ≤ c.toNat ∧ c.toNat ≤ interval.2 :=
  Ranges.exists_of_contains hdigit

/-- The digits other than those of ASCII are far above them. -/
theorem toNat_of_digit (hdigit : CharSet.digit.contains c = true) :
    48 ≤ c.toNat ∧ c.toNat ≤ 57 ∨ 0x660 ≤ c.toNat := by
  have htable : ∀ interval ∈ Category.decimalNumber,
      interval = (0x30, 0x39) ∨ 0x660 ≤ interval.1 := by
    decide +kernel
  obtain ⟨interval, hmem, hlow, hhigh⟩ := exists_interval_of_digit hdigit
  rcases htable interval hmem with rfl | habove
  · exact .inl ⟨hlow, hhigh⟩
  · exact .inr (Nat.le_trans habove hlow)

theorem notBlank_of_digit (hdigit : CharSet.digit.contains c = true) : isBlank c = false := by
  have hapart : ∀ digits ∈ Category.decimalNumber, ∀ blanks ∈ Property.whiteSpace,
      digits.2 < blanks.1 ∨ blanks.2 < digits.1 := by
    decide +kernel
  by_contra hblank
  rw [Bool.not_eq_false] at hblank
  obtain ⟨digits, hdigits, hlow, hhigh⟩ := exists_interval_of_digit hdigit
  obtain ⟨blanks, hblanks, hlow', hhigh'⟩ := Ranges.exists_of_contains hblank
  have := hapart digits hdigits blanks hblanks
  omega

/-! ## Rows -/

/-- A row of so many digits of any script. -/
structure IsRow (lengths : List Nat) (text : List Char) : Prop where
  length_mem : text.length ∈ lengths
  digit : ∀ c ∈ text, CharSet.digit.contains c = true

/-- A row of so many ASCII digits with the given value. -/
structure IsNumeral (lengths : List Nat) (text : List Char) (n : Nat) : Prop where
  length_mem : text.length ∈ lengths
  isDigit : ∀ c ∈ text, c.isDigit = true
  value : digitsValue text = n

instance : Decidable (IsNumeral lengths text n) :=
  decidable_of_iff (text.length ∈ lengths ∧ text.all Char.isDigit = true ∧ digitsValue text = n)
    ⟨fun h => ⟨h.1, List.all_eq_true.1 h.2.1, h.2.2⟩,
      fun h => ⟨h.length_mem, List.all_eq_true.2 h.isDigit, h.value⟩⟩

theorem IsNumeral.isRow (hnumeral : IsNumeral lengths text n) : IsRow lengths text where
  length_mem := hnumeral.length_mem
  digit c hc := digit_contains_of_isDigit (hnumeral.isDigit c hc)

theorem IsRow.mono {more : List Nat} (hrow : IsRow lengths text) (hsub : lengths ⊆ more) :
    IsRow more text :=
  ⟨hsub hrow.length_mem, hrow.digit⟩

theorem IsRow.ne_nil (hrow : IsRow lengths text) (hpos : 0 ∉ lengths) : text ≠ [] := by
  rintro rfl
  exact hpos hrow.length_mem

/-- A character that is no digit does not stand in a row of digits. -/
theorem IsRow.not_mem (hrow : IsRow lengths text) (hc : CharSet.digit.contains c = false) :
    c ∉ text := by
  intro hmem
  rw [hrow.digit c hmem] at hc
  cases hc

/-! ## Values -/

theorem digitsValue_append_singleton (text : List Char) (c : Char) :
    digitsValue (text ++ [c]) = 10 * digitsValue text + (c.toNat - 48) := by
  rw [digitsValue, List.foldl_append]
  rfl

theorem digitsValue_lt (htext : ∀ c ∈ text, c.isDigit = true) :
    digitsValue text < 10 ^ text.length := by
  induction text using List.reverseRecOn with
  | nil => simp [digitsValue]
  | append_singleton text c ih =>
    have hbefore := ih fun d hd => htext d (List.mem_append_left _ hd)
    obtain ⟨hlow, hhigh⟩ := isDigit_iff.1 (htext c (by simp))
    rw [digitsValue_append_singleton, List.length_append, List.length_singleton, Nat.pow_succ]
    omega

/-- ASCII digits with a value below the limit, maybe with a plus sign before them. -/
def LooseNumeral (limit : Nat) (text : List Char) (n : Nat) : Prop :=
  ∃ digits, (text = digits ∨ text = '+' :: digits) ∧ digits ≠ [] ∧
    (∀ c ∈ digits, c.isDigit = true) ∧ digitsValue digits = n ∧ n < limit

theorem unsigned?_iff_looseNumeral {limit : Nat} :
    unsigned? limit text = some n ↔ LooseNumeral limit text n := by
  have hdigits : ∀ digits : List Char,
      (if !digits.isEmpty && digits.all Char.isDigit && digitsValue digits < limit then
        some (digitsValue digits) else none) = some n ↔
      digits ≠ [] ∧ (∀ c ∈ digits, c.isDigit = true) ∧ digitsValue digits = n ∧ n < limit := by
    intro digits
    rw [Option.ite_none_right_eq_some, Option.some.injEq]
    simp only [Bool.and_eq_true, Bool.not_eq_true', List.isEmpty_eq_false_iff, List.all_eq_true,
      decide_eq_true_iff]
    constructor
    · rintro ⟨⟨⟨hne, hall⟩, hlimit⟩, rfl⟩
      exact ⟨hne, hall, rfl, hlimit⟩
    · rintro ⟨hne, hall, rfl, hlimit⟩
      exact ⟨⟨⟨hne, hall⟩, hlimit⟩, rfl⟩
  have hplus : ('+' : Char).isDigit = false := by decide
  unfold unsigned?
  dsimp only
  rw [hdigits]
  split
  · next rest =>
    constructor
    · exact fun h => ⟨rest, .inr rfl, h⟩
    · rintro ⟨digits, rfl | heq, hne, hall, hvalue⟩
      · rw [hall '+' List.mem_cons_self] at hplus
        cases hplus
      · cases heq
        exact ⟨hne, hall, hvalue⟩
  · next hother =>
    constructor
    · exact fun h => ⟨text, .inl rfl, h⟩
    · rintro ⟨digits, rfl | rfl, h⟩
      · exact h
      · exact absurd rfl (hother digits)

/-- A row of a few digits is read as a number just if all of them are ASCII digits. -/
theorem unsigned?_eq_some_iff (hrow : IsRow lengths text) (hpos : 0 ∉ lengths) {limit : Nat}
    (hlimit : ∀ length ∈ lengths, 10 ^ length ≤ limit) :
    unsigned? limit text = some n ↔ IsNumeral lengths text n := by
  rw [unsigned?_iff_looseNumeral]
  constructor
  · rintro ⟨digits, rfl | rfl, -, hdigits, hvalue, -⟩
    · exact ⟨hrow.length_mem, hdigits, hvalue⟩
    · exact absurd List.mem_cons_self (hrow.not_mem (by decide +kernel))
  · rintro ⟨hlength, hdigits, rfl⟩
    have hlt := Nat.lt_of_lt_of_le (digitsValue_lt hdigits) (hlimit _ hlength)
    exact ⟨text, .inl rfl, hrow.ne_nil hpos, hdigits, rfl, hlt⟩

/-! ## Short rows -/

theorem digit_of_toNat (hlow : 48 ≤ c.toNat) (hhigh : c.toNat ≤ 57) :
    CharSet.digit.contains c = true :=
  digit_contains_of_isDigit (isDigit_iff.2 ⟨hlow, hhigh⟩)

theorem isRow_one (hlength : 1 ∈ lengths) (hc : CharSet.digit.contains c = true) :
    IsRow lengths [c] := by
  refine ⟨hlength, ?_⟩
  simpa using hc

theorem isRow_two (hlength : 2 ∈ lengths) (ha : CharSet.digit.contains a = true)
    (hb : CharSet.digit.contains b = true) : IsRow lengths [a, b] := by
  refine ⟨hlength, ?_⟩
  simpa using ⟨ha, hb⟩

/-- A numeral of two digits, with the values of its digits. -/
theorem IsNumeral.exists_two (hnumeral : IsNumeral [2] text n) :
    ∃ a b : Char, text = [a, b] ∧ (48 ≤ a.toNat ∧ a.toNat ≤ 57) ∧ (48 ≤ b.toNat ∧ b.toNat ≤ 57) ∧
      n = 10 * (a.toNat - 48) + (b.toNat - 48) := by
  obtain ⟨hlength, hdigit, rfl⟩ := hnumeral
  obtain ⟨a, b, rfl⟩ := List.length_eq_two.1 (List.mem_singleton.1 hlength)
  have ha := isDigit_iff.1 (hdigit a (by simp))
  have hb := isDigit_iff.1 (hdigit b (by simp))
  refine ⟨a, b, rfl, ha, hb, ?_⟩
  simp [digitsValue]

/-- A numeral of one or two digits, with the values of its digits. -/
theorem IsNumeral.exists_one_or_two (hnumeral : IsNumeral [1, 2] text n) :
    (∃ c : Char, text = [c] ∧ (48 ≤ c.toNat ∧ c.toNat ≤ 57) ∧ n = c.toNat - 48) ∨
      ∃ a b : Char, text = [a, b] ∧ (48 ≤ a.toNat ∧ a.toNat ≤ 57) ∧
        (48 ≤ b.toNat ∧ b.toNat ≤ 57) ∧ n = 10 * (a.toNat - 48) + (b.toNat - 48) := by
  obtain ⟨hlength, hdigit, hvalue⟩ := hnumeral
  rcases List.mem_cons.1 hlength with hone | htwo
  · obtain ⟨c, rfl⟩ := List.length_eq_one_iff.1 hone
    have hc := isDigit_iff.1 (hdigit c (by simp))
    refine .inl ⟨c, rfl, hc, ?_⟩
    rw [← hvalue]
    simp [digitsValue]
  · exact .inr (IsNumeral.exists_two ⟨htwo, hdigit, hvalue⟩)

/-- Numbers from ten on have two digits. -/
theorem IsNumeral.exists_two_of_le (hnumeral : IsNumeral [1, 2] text n) (hlow : 10 ≤ n) :
    ∃ a b : Char, text = [a, b] ∧ (48 ≤ a.toNat ∧ a.toNat ≤ 57) ∧ (48 ≤ b.toNat ∧ b.toNat ≤ 57) ∧
      n = 10 * (a.toNat - 48) + (b.toNat - 48) := by
  rcases hnumeral.exists_one_or_two with ⟨c, rfl, hc, rfl⟩ | htwo
  · omega
  · exact htwo

end FieldRules.Text
