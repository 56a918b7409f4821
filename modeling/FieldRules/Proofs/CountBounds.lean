import FieldRules.Proofs.CompiledRules
import FieldRules.Proofs.Matching

/-!
# Bounds that are counts

Rules on lengths and on digits read their bounds as counts, whatever the rule is called.

* `count?`: the count that a bound stands for.
* `countBound_eq_ok_iff`, `countRange_eq_ok_iff`: when bounds are taken for counts, and for
  counts in order.
* `Bound.Allows`: the numbers that bounds allow.
* `within_iff_allows`: least and greatest length allow the numbers that the bounds allow.
-/

namespace FieldRules.Rule

open Pattern

variable {rule raw lo hi : String} {n : Nat} {bound : Bound} {params : List String}

/-! ## Counts -/

/-- The count that a bound stands for, blanks around it aside. -/
def count? (raw : String) : Option Nat :=
  Text.unsigned? Text.countLimit (Text.trim raw.toList)

theorem countBound_eq (rule raw : String) : countBound rule raw =
    match count? raw with
    | some n => .ok n
    | none => .error (.invalidBound rule raw .notCount) :=
  rfl

theorem countBound_eq_ok_iff : countBound rule raw = .ok n ↔ count? raw = some n := by
  rw [countBound_eq]
  cases count? raw <;> simp

theorem allCounts_eq_true_iff : allCounts rule params = true ↔
    ∀ raw ∈ params, (count? raw).isSome = true := by
  rw [allCounts, List.all_eq_true]
  refine forall₂_congr fun raw _ => ?_
  rw [countBound_eq]
  cases count? raw <;> simp [Except.toOption]

theorem countRange_eq {a b : Nat} (hlo : count? lo = some a) (hhi : count? hi = some b) :
    countRange rule lo hi =
      if a ≤ b then .ok (a, b) else .error (.invalidBound rule hi .reversed) := by
  unfold countRange
  rw [countBound_eq_ok_iff.2 hlo, countBound_eq_ok_iff.2 hhi]
  rfl

/-- Two bounds are taken for counts just if both are counts, and these are in order. -/
theorem countRange_eq_ok_iff {a b : Nat} : countRange rule lo hi = .ok (a, b) ↔
    count? lo = some a ∧ count? hi = some b ∧ a ≤ b := by
  constructor
  · intro h
    obtain ⟨least, hleast, h'⟩ := bind_eq_ok h
    obtain ⟨greatest, hgreatest, -⟩ := bind_eq_ok h'
    rw [countBound_eq_ok_iff] at hleast hgreatest
    rw [countRange_eq hleast hgreatest] at h
    split at h
    · next hle =>
      cases h
      exact ⟨hleast, hgreatest, hle⟩
    · cases h
  · rintro ⟨hlo, hhi, hle⟩
    rw [countRange_eq hlo hhi, if_pos hle]

/-! ## What bounds allow -/

/-- The number is one that the bounds allow. -/
def Bound.Allows (bound : Bound) (params : List String) (n : Nat) : Prop :=
  match bound, params with
  | exact, [raw] => count? raw = some n
  | min, [raw] => ∃ least, count? raw = some least ∧ least ≤ n
  | max, [raw] => ∃ greatest, count? raw = some greatest ∧ n ≤ greatest
  | between, [lo, hi] => ∃ least greatest, count? lo = some least ∧ count? hi = some greatest ∧
      least ≤ n ∧ n ≤ greatest
  | _, _ => False

/-- The least and the greatest number that the bounds are read as are those between which
they allow all numbers. -/
theorem within_iff_allows {bounds : Nat × Option Nat} (hparams : params.length = bound.places)
    (h : lengthBounds rule bound params = .ok bounds) :
    Within bounds.1 bounds.2 n ↔ bound.Allows params n := by
  cases bound with
  | exact =>
    obtain ⟨raw, rfl⟩ := List.length_eq_one_iff.1 hparams
    obtain ⟨count, hcount, rfl⟩ := map_eq_ok h
    simp only [Within, Bound.Allows, countBound_eq_ok_iff.1 hcount, Option.mem_def,
      Option.some.injEq, forall_eq']
    omega
  | min =>
    obtain ⟨raw, rfl⟩ := List.length_eq_one_iff.1 hparams
    obtain ⟨count, hcount, rfl⟩ := map_eq_ok h
    simp [Within, Bound.Allows, countBound_eq_ok_iff.1 hcount]
  | max =>
    obtain ⟨raw, rfl⟩ := List.length_eq_one_iff.1 hparams
    obtain ⟨count, hcount, rfl⟩ := map_eq_ok h
    simp [Within, Bound.Allows, countBound_eq_ok_iff.1 hcount]
  | between =>
    obtain ⟨lo, hi, rfl⟩ := List.length_eq_two.1 hparams
    obtain ⟨⟨least, greatest⟩, hrange, rfl⟩ := map_eq_ok h
    obtain ⟨hlo, hhi, -⟩ := countRange_eq_ok_iff.1 hrange
    simp [Within, Bound.Allows, hlo, hhi]

end FieldRules.Rule
