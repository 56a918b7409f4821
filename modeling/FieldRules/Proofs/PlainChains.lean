import FieldRules.Proofs.Moves

/-!
# Chains that only look at their own value

A chain is plain if none of its validators compares with another field or asks a
callback.  Its evaluation depends on nothing but the field and its value, and is
final at once.  A chain that compares with other fields but asks no callback is
final at once, too, and depends on the values of these fields only.

* `evaluate_congr_of_targets`, `evaluate_congr_of_plain`: which other values
  matter.
* `isAwaiting_of_immediate`: no callback is asked.
* `evaluate_of_idle`: a field that is disabled or has no rules is valid.
-/

namespace FieldRules

/-- No validator of the field compares with another field or asks a callback. -/
def FieldState.Plain (state : FieldState) : Prop :=
  ∀ v ∈ state.validators, v.target? = none ∧ v.callback? = none

instance (state : FieldState) : Decidable state.Plain :=
  inferInstanceAs (Decidable (∀ v ∈ state.validators, v.target? = none ∧ v.callback? = none))

/-- No validator of the field asks a callback. -/
def FieldState.Immediate (state : FieldState) : Prop :=
  ∀ v ∈ state.validators, v.callback? = none

instance (state : FieldState) : Decidable state.Immediate :=
  inferInstanceAs (Decidable (∀ v ∈ state.validators, v.callback? = none))

theorem FieldState.Plain.immediate {state : FieldState} (hplain : state.Plain) : state.Immediate :=
  fun v hmem => (hplain v hmem).2

/-- The field is not validated. -/
def FieldState.Idle (state : FieldState) : Prop :=
  state.disabled = true ∨ state.validators = []

theorem FieldState.idle_iff (state : FieldState) :
    state.Idle ↔ (state.disabled || state.validators.isEmpty) = true := by
  rw [Bool.or_eq_true, List.isEmpty_iff]
  rfl

namespace Engine

variable {engine : Engine} {state : FieldState} {value : Option String}
  {others others' : String → Option String} {e e' : Evaluation}

/-! ## Evaluations that succeed -/

/-- An evaluation either has nothing to do or runs the chain. -/
theorem evaluate_eq_ok_iff :
    engine.evaluate state value others = .ok e ↔
      (skips state value = true ∧ e = .skip) ∨
      (skips state value = false ∧ ∃ e', engine.run value others 0 state.validators
          { target := state.requirement.target state.validators.length } = .ok e' ∧
        e = engine.conclude e') := by
  unfold evaluate
  cases skips state value with
  | true => simp [eq_comm]
  | false =>
    dsimp only [Bool.false_eq_true, if_false]
    cases engine.run value others 0 state.validators
      { target := state.requirement.target state.validators.length } with
    | error cause => simp [bind, Except.bind]
    | ok found => simp [bind, Except.bind, pure, Except.pure, eq_comm]

/-! ## What evaluations do not depend on -/

theorem passes?_congr {v : Validator}
    (hagree : ∀ target, v.target? = some target → others target.field = others' target.field) :
    v.passes? value others = v.passes? value others' := by
  unfold Validator.passes?
  unfold Validator.target? at hagree
  cases hcheck : v.check with
  | matching target =>
    rw [hcheck] at hagree
    dsimp only
    rw [hagree target rfl]
  | _ => rfl

theorem run_congr (engine : Engine) (value : Option String) {validators : List Validator}
    (hagree : ∀ v ∈ validators, ∀ target, v.target? = some target →
      others target.field = others' target.field) :
    ∀ (index : Nat) (e : Evaluation),
      engine.run value others index validators e = engine.run value others' index validators e := by
  induction validators with
  | nil => exact fun _ _ => rfl
  | cons v rest ih =>
    have ih := ih fun v hmem => hagree v (List.mem_cons_of_mem _ hmem)
    have hpasses : v.passes? value others = v.passes? value others' :=
      passes?_congr (hagree v List.mem_cons_self)
    intro index e
    rw [run, run, hpasses]
    split
    · exact ih _ _
    · dsimp only
      split
      · split
        · rfl
        · exact ih _ _
      · simp only [ih]

/-- An evaluation depends on the values of the fields that the rules compare with,
and on no others. -/
theorem evaluate_congr_of_targets
    (hagree : ∀ target ∈ state.targets, others target.field = others' target.field) :
    engine.evaluate state value others = engine.evaluate state value others' := by
  have hrun : ∀ index e, engine.run value others index state.validators e =
      engine.run value others' index state.validators e :=
    run_congr engine value fun v hmem target htarget =>
      hagree target (List.mem_filterMap.2 ⟨v, hmem, htarget⟩)
  unfold evaluate
  dsimp only
  rw [hrun]

/-- The evaluation of a plain chain does not depend on other values. -/
theorem evaluate_congr_of_plain (hplain : state.Plain) :
    engine.evaluate state value others = engine.evaluate state value others' := by
  refine evaluate_congr_of_targets fun target hmem => ?_
  obtain ⟨v, hv, htarget⟩ := List.mem_filterMap.1 hmem
  rw [(hplain v hv).1] at htarget
  cases htarget

/-! ## Chains that ask no callback -/

theorem pending_run {validators : List Validator}
    (hcallbacks : ∀ v ∈ validators, v.callback? = none) :
    ∀ (index : Nat) (e e' : Evaluation),
      engine.run value others index validators e = .ok e' → e'.pending = e.pending := by
  induction validators with
  | nil =>
    intro index e e' h
    cases h
    rfl
  | cons v rest ih =>
    have ih := ih fun v hmem => hcallbacks v (List.mem_cons_of_mem _ hmem)
    intro index e e' h
    rw [run, hcallbacks v List.mem_cons_self] at h
    dsimp only at h
    split at h
    · split at h
      · cases h
        rfl
      · have hrest := ih _ _ _ h
        exact hrest
    · cases hmessage : Message.resolve engine.translator (v.failureKey (value.getD "")) v.params
        v.alt with
      | error cause =>
        rw [hmessage] at h
        cases h
      | ok message =>
        rw [hmessage] at h
        have hrest := ih _ _ _ h
        exact hrest

/-- The evaluation of a chain that asks no callback is final. -/
theorem isAwaiting_of_immediate (himmediate : state.Immediate)
    (heval : engine.evaluate state value others = .ok e) : e.isAwaiting = false := by
  rcases evaluate_eq_ok_iff.1 heval with ⟨-, rfl⟩ | ⟨-, e', hrun, rfl⟩
  · rfl
  · have hpending := pending_run himmediate _ _ _ hrun
    unfold conclude Evaluation.isAwaiting
    split
    · rfl
    · dsimp only
      rw [hpending]
      rfl

/-! ## Fields that are not validated -/

theorem compose_nil (engine : Engine) : engine.compose [] = "" := by
  unfold compose Message.compose
  split <;> rfl

/-- A field that is not validated is valid, and there is nothing to say about it. -/
theorem evaluate_of_idle (hidle : state.Idle)
    (heval : engine.evaluate state value others = .ok e) : e.valid = true ∧ e.message = "" := by
  rcases evaluate_eq_ok_iff.1 heval with ⟨-, rfl⟩ | ⟨hskips, e', hrun, rfl⟩
  · exact ⟨rfl, rfl⟩
  · have hempty : state.validators = [] := by
      refine hidle.resolve_left fun hdisabled => ?_
      rw [skips, hdisabled, Bool.true_or] at hskips
      cases hskips
    have htarget : state.requirement.target 0 = 0 := by
      cases state.requirement <;> simp [Requirement.target]
    rw [hempty, List.length_nil, htarget] at hrun
    cases hrun
    exact ⟨rfl, compose_nil engine⟩

end Engine

end FieldRules
