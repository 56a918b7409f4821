import FieldRules.Proofs.BoundConditions
import FieldRules.Validator

/-!
# Bounds that are numbers

Rules on numbers compare a value that is a number with their bounds, and refuse any other.

* `Bound.AllowsNumber`: the numbers that bounds allow.
* `numberTest_eq_ok_iff`: which bounds are taken, and for which test.
* `passes_numberTest_iff`: the test accepts the texts of the numbers that its bounds allow.
-/

namespace FieldRules

open Number Rule

/-! ## Conditions on numbers -/

variable {rule text : String} {bound : Bound} {params : List String}
  {conditions : List Condition} {x : Binary64} {test : Test}

/-- The number is related to the bound of a condition as the condition says. -/
def Condition.AdmitsNumber (c : Condition) (x : Binary64) : Prop :=
  ∃ bound, Number.parse c.bound = some bound ∧ c.operator.holds (x.compare bound) = true

theorem numberPasses_eq_true_iff : Test.numberPasses conditions text = true ↔
    ∃ x, Number.parse text = some x ∧ ∀ c ∈ conditions, c.AdmitsNumber x := by
  unfold Test.numberPasses
  cases Number.parse text with
  | none => simp
  | some x => simp [Condition.AdmitsNumber, Option.any_eq_true]

theorem admitsNumber_eq_iff : (Condition.mk .eq (Text.trimmed text)).AdmitsNumber x ↔
    Number.parse text = some x := by
  have hunits : ∀ b : Binary64, x.units = b.units ↔ b = x := by
    rintro ⟨units⟩
    rw [Binary64.mk.injEq, eq_comm]
  simp [Condition.AdmitsNumber, Number.parse_trimmed, Operator.holds, Binary64.compare, hunits]

theorem admitsNumber_ge_iff : (Condition.mk .ge (Text.trimmed text)).AdmitsNumber x ↔
    ∃ least, Number.parse text = some least ∧ least.units ≤ x.units := by
  simp [Condition.AdmitsNumber, Number.parse_trimmed, Operator.holds, Binary64.compare,
    Int.compare_ne_lt]

theorem admitsNumber_le_iff : (Condition.mk .le (Text.trimmed text)).AdmitsNumber x ↔
    ∃ greatest, Number.parse text = some greatest ∧ x.units ≤ greatest.units := by
  simp [Condition.AdmitsNumber, Number.parse_trimmed, Operator.holds, Binary64.compare,
    Int.compare_ne_gt]

namespace Rule

/-! ## Tests for numbers -/

/-- The number is one that the bounds allow. -/
def Bound.AllowsNumber (bound : Bound) (params : List String) (x : Binary64) : Prop :=
  match bound, params with
  | exact, [raw] => Number.parse raw = some x
  | min, [raw] => ∃ least, Number.parse raw = some least ∧ least.units ≤ x.units
  | max, [raw] => ∃ greatest, Number.parse raw = some greatest ∧ x.units ≤ greatest.units
  | between, [lo, hi] => ∃ least greatest, Number.parse lo = some least ∧
      Number.parse hi = some greatest ∧ least.units ≤ x.units ∧ x.units ≤ greatest.units
  | _, _ => False

theorem admitsNumber_iff_allowsNumber (hparams : params.length = bound.places) :
    (∀ c ∈ bound.asks params, c.AdmitsNumber x) ↔ bound.AllowsNumber params x := by
  cases bound with
  | exact =>
    obtain ⟨raw, rfl⟩ := List.length_eq_one_iff.1 hparams
    simp [Bound.asks, Bound.AllowsNumber, admitsNumber_eq_iff]
  | min =>
    obtain ⟨raw, rfl⟩ := List.length_eq_one_iff.1 hparams
    simp [Bound.asks, Bound.AllowsNumber, admitsNumber_ge_iff]
  | max =>
    obtain ⟨raw, rfl⟩ := List.length_eq_one_iff.1 hparams
    simp [Bound.asks, Bound.AllowsNumber, admitsNumber_le_iff]
  | between =>
    obtain ⟨lo, hi, rfl⟩ := List.length_eq_two.1 hparams
    simp only [Bound.asks, Bound.AllowsNumber, List.forall_mem_cons, admitsNumber_ge_iff,
      admitsNumber_le_iff]
    grind

/-- A test for numbers is made of bounds that are numbers. -/
theorem numberTest_eq_ok_iff (hparams : params.length = bound.places) :
    numberTest rule bound params = .ok test ↔
      (∀ raw ∈ params, (Number.parse raw).isSome = true) ∧
        test = .number (bound.asks params) := by
  unfold numberTest
  constructor
  · intro h
    obtain ⟨conditions, hconditions, rfl⟩ := map_eq_ok h
    obtain ⟨hgood, rfl⟩ :=
      (boundConditions_eq_ok_iff (fun _ _ => numberBound_eq_ok_iff) hparams).1 hconditions
    exact ⟨hgood, rfl⟩
  · rintro ⟨hgood, rfl⟩
    rw [(boundConditions_eq_ok_iff (fun _ _ => numberBound_eq_ok_iff) hparams).2 ⟨hgood, rfl⟩]
    rfl

/-- A test for numbers accepts the texts of the numbers that its bounds allow. -/
theorem passes_numberTest_iff (hparams : params.length = bound.places)
    (h : numberTest rule bound params = .ok test) (text : String) :
    test.passes (some text) = true ↔
      ∃ x, Number.parse text = some x ∧ bound.AllowsNumber params x := by
  obtain ⟨-, rfl⟩ := (numberTest_eq_ok_iff hparams).1 h
  rw [Test.passes, Option.getD_some, numberPasses_eq_true_iff]
  simp only [admitsNumber_iff_allowsNumber hparams]

end Rule

end FieldRules
