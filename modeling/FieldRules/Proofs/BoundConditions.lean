import FieldRules.Proofs.CompiledRules

/-!
# Bounds and their conditions

The bounds of a rule on numbers or on dates become conditions on the value, in which they
stand without the blanks around them.

* `Bound.asks`: the conditions that bounds ask for.
* `boundConditions_eq_ok_iff`: a rule takes its bounds just if it reads each of them.
* `numberBound_eq_ok_iff`, `dateBound_eq_ok_iff`: the bounds that are read.
-/

namespace FieldRules.Rule

variable {rule raw text : String} {bound : Bound} {params : List String}
  {conditions : List Condition} {f : Date.Format}

/-- The conditions that bounds ask for. -/
def Bound.asks : Bound → List String → List Condition
  | .exact, raw :: _ => [⟨.eq, Text.trimmed raw⟩]
  | .min, raw :: _ => [⟨.ge, Text.trimmed raw⟩]
  | .max, raw :: _ => [⟨.le, Text.trimmed raw⟩]
  | .between, lo :: hi :: _ => [⟨.ge, Text.trimmed lo⟩, ⟨.le, Text.trimmed hi⟩]
  | _, _ => []

/-- A rule takes its bounds just if it reads each of them. -/
theorem boundConditions_eq_ok_iff {read : String → Except ConfigError String}
    {Good : String → Prop}
    (hread : ∀ raw text, read raw = .ok text ↔ Good raw ∧ text = Text.trimmed raw)
    (hparams : params.length = bound.places) :
    boundConditions bound read params = .ok conditions ↔
      (∀ raw ∈ params, Good raw) ∧ conditions = bound.asks params := by
  have hok : ∀ {raw}, Good raw → read raw = .ok (Text.trimmed raw) :=
    fun hgood => (hread ..).2 ⟨hgood, rfl⟩
  constructor
  · intro h
    cases bound with
    | exact | min | max =>
      obtain ⟨raw, rfl⟩ := List.length_eq_one_iff.1 hparams
      obtain ⟨text, htext, h⟩ := bind_eq_ok h
      obtain ⟨hgood, rfl⟩ := (hread ..).1 htext
      cases h
      exact ⟨List.forall_mem_singleton.2 hgood, rfl⟩
    | between =>
      obtain ⟨lo, hi, rfl⟩ := List.length_eq_two.1 hparams
      obtain ⟨least, hleast, h⟩ := bind_eq_ok h
      obtain ⟨greatest, hgreatest, h⟩ := bind_eq_ok h
      obtain ⟨hlo, rfl⟩ := (hread ..).1 hleast
      obtain ⟨hhi, rfl⟩ := (hread ..).1 hgreatest
      cases h
      exact ⟨List.forall_mem_cons.2 ⟨hlo, List.forall_mem_singleton.2 hhi⟩, rfl⟩
  · rintro ⟨hgood, rfl⟩
    cases bound with
    | exact | min | max =>
      obtain ⟨raw, rfl⟩ := List.length_eq_one_iff.1 hparams
      rw [boundConditions, hok (hgood raw List.mem_cons_self)]
      rfl
    | between =>
      obtain ⟨lo, hi, rfl⟩ := List.length_eq_two.1 hparams
      rw [boundConditions, hok (hgood lo (by simp)), hok (hgood hi (by simp))]
      rfl

theorem numberBound_eq_ok_iff : numberBound rule raw = .ok text ↔
    (Number.parse raw).isSome = true ∧ text = Text.trimmed raw := by
  unfold numberBound
  split
  · next hparse => simp [hparse, eq_comm]
  · next hparse => simp [hparse]

theorem dateBound_eq_ok_iff : dateBound f rule raw = .ok text ↔
    (f.instant? raw).isSome = true ∧ text = Text.trimmed raw := by
  unfold dateBound
  split
  · next hinstant => simp [hinstant, eq_comm]
  · next hinstant => simp [hinstant]

end FieldRules.Rule
