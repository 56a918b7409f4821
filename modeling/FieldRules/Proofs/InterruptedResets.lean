import FieldRules.Proofs.Counting
import FieldRules.Proofs.Withdrawals

/-!
# Resets that end early

A reset that keeps the fields of a form first makes all of them valid, and then
evaluates one after the other.  The first evaluation that fails ends it, so the
fields behind that one stay valid, whatever their values are.

* `FieldState.FailsOn`: too few validators of a chain pass on a value.
* `Context.Unevaluable`: the evaluation of a field fails.
* `valid_evaluateAll_iff`: what becomes of a field whose chain fails on its value.
* `valid_resetForm_iff_unevaluable`: a reset leaves such a field valid just if a
  field before it cannot be evaluated.
* `not_forall_resetForm_invalid`: so a reset may leave wrong fields valid.
-/

namespace FieldRules

/-! ## Chains that fail on a value -/

/-- The trial of a value on its own. -/
def Trial.alone (value : Option String) : Trial where
  value := value
  others _ := none
  outcome _ := ⟨false, none⟩
  delay _ := 0

/-- The value is not skipped, and fewer validators pass on it than have to. -/
def FieldState.FailsOn (state : FieldState) (value : Option String) : Prop :=
  Engine.skips state value = false ∧
    (Trial.alone value).count state.validators <
      state.requirement.target state.validators.length

instance (state : FieldState) (value : Option String) : Decidable (state.FailsOn value) :=
  inferInstanceAs (Decidable (_ = _ ∧ _ < _))

variable {engine : Engine} {state other : FieldState} {value : Option String}

theorem FieldState.FailsOn.congr (hsetup : other.setup = state.setup) :
    other.FailsOn value ↔ state.FailsOn value := by
  have hread : ∀ state : FieldState, state.setup.FailsOn value = state.FailsOn value :=
    fun _ => rfl
  rw [FieldState.congr_setup (f := (·.FailsOn value)) hread hsetup]

/-- Whatever the evaluation of such a field gives, it is not that the field is valid. -/
theorem Engine.valid_of_failsOn {others : String → Option String} {e : Evaluation}
    (hplain : state.Plain) (hfails : state.FailsOn value)
    (heval : engine.evaluate state value others = .ok e) : e.valid = false := by
  obtain ⟨hskips, hless⟩ := hfails
  have heval' : engine.evaluate state value (Trial.alone value).others = .ok e := by
    rw [evaluate_congr_of_plain hplain]
    exact heval
  rcases evaluate_eq_ok_iff.1 heval' with ⟨hskipped, -⟩ | ⟨-, ran, hrun, rfl⟩
  · rw [hskips] at hskipped
    contradiction
  · have hran : Ran engine (Trial.alone value) (state.validators.zipIdx 0) _ ran :=
      ran_run _ _ _ _ hrun
    have hpasses : ran.passes ≤ (Trial.alone value).count state.validators := by
      have hle := hran.passes_le
      have hcount := count_eq (Trial.alone value) state.validators
      simp only [Nat.zero_add] at hle
      omega
    have htarget : ran.target = state.requirement.target state.validators.length := hran.target
    have hnot : ¬ ran.target ≤ ran.passes := by omega
    rw [conclude, if_neg hnot]

/-- Such a field is invalid once it has been evaluated. -/
theorem FieldState.valid_evaluated_of_failsOn (hplain : state.Plain)
    (hfails : state.FailsOn value) (others : String → Option String) (generation : Nat) :
    (state.evaluated value generation (engine.evaluate state value others)).valid = false := by
  cases heval : engine.evaluate state value others with
  | error e => exact valid_record _ _ _
  | ok e =>
    have hfinal := Engine.isAwaiting_of_immediate hplain.immediate heval
    have hvalid := (result_evaluated heval hfinal generation).1
    rw [hvalid]
    exact Engine.valid_of_failsOn hplain hfails heval

namespace Context

variable {c d : Context} {field head form : String} {fields : List String}

/-! ## Evaluations that fail -/

/-- The evaluation of a field with the stored values fails. -/
def Unevaluable (c : Context) (field : String) : Prop :=
  ∃ state e, c.fields.find? field = some state ∧ c.evaluation state = .error e

/-- Whether an evaluation fails depends on what evaluations start from. -/
theorem Unevaluable.of_basis (hunevaluable : c.Unevaluable field)
    (hbasis : (d.view field).basis = (c.view field).basis) (hvalues : d.values = c.values)
    (hengine : d.engine = c.engine) : d.Unevaluable field := by
  obtain ⟨state, e, hfind, heval⟩ := hunevaluable
  obtain ⟨after, hafter, hsetup⟩ := exists_state_of_basis hbasis hfind
  refine ⟨after, e, hafter, ?_⟩
  have hname := FieldState.name_of_setup hsetup
  have htargets : after.targets = state.targets :=
    FieldState.congr_setup (f := FieldState.targets) (fun _ => rfl) hsetup
  rw [evaluation, hengine, hvalues, hname, htargets, FieldState.evaluate_congr hsetup]
  exact heval

theorem Sound.unevaluable_evaluate_iff (hsound : c.Sound) (head field : String) :
    (c.evaluate head).1.Unevaluable field ↔ c.Unevaluable field := by
  have hbasis := basis_evaluate hsound head field
  have hvalues := hsound.values_evaluate head
  have hengine := hsound.engine_evaluate head
  constructor
  · intro h
    exact h.of_basis hbasis.symm hvalues.symm hengine.symm
  · intro h
    exact h.of_basis hbasis hvalues hengine

theorem Sound.evaluate_eq_error_iff (hsound : c.Sound) (field : String) :
    (∃ e, (c.evaluate field).2 = .error e) ↔ c.Unevaluable field := by
  cases hfind : c.fields.find? field with
  | none => simp [evaluate_of_unregistered c hfind, Unevaluable, hfind]
  | some state =>
    have hpresent := hsound.present hfind
    rw [evaluate_eq c hfind hpresent.name hpresent.named]
    cases heval : c.evaluation state with
    | error e => simp [Unevaluable, hfind, heval, Except.map]
    | ok e => simp [Unevaluable, hfind, heval, Except.map]

/-! ## Evaluating the fields of a form -/

/-- The state that a field has after its own evaluation. -/
theorem Sound.exists_evaluated (hsound : c.Sound) (hfind : c.fields.find? field = some state)
    (hplain : state.Plain) (hfails : state.FailsOn (c.values.find? field)) :
    ∃ after, (c.evaluate field).1.fields.find? field = some after ∧
      after.setup = state.setup ∧ after.valid = false := by
  have hpresent := hsound.present hfind
  have hview := view_evaluate_self c hfind hpresent.name hpresent.named
  refine ⟨_, congrArg View.state hview, state.setup_evaluated _ _ _, ?_⟩
  have hname : c.values.find? state.name = c.values.find? field := by rw [hpresent.name]
  rw [evaluation, hname]
  exact FieldState.valid_evaluated_of_failsOn hplain hfails _ _

/-- Fields that are not evaluated keep their state. -/
theorem Sound.find?_evaluateAll_of_notMem (hsound : c.Sound) (hnodup : fields.Nodup)
    (hnot : field ∉ fields) :
    (c.evaluateAll fields).1.fields.find? field = c.fields.find? field := by
  obtain ⟨issued, -, hview⟩ := (allEvaluated fields hsound hnodup).others field hnot
  exact congrArg View.state hview

/-- A valid field whose chain fails on its value stays valid just if a field before
it cannot be evaluated. -/
theorem valid_evaluateAll_iff (fields : List String) :
    ∀ {c : Context} {state : FieldState}, c.Sound → fields.Nodup → field ∈ fields →
      c.fields.find? field = some state → state.valid = true → state.Plain →
      state.FailsOn (c.values.find? field) →
      ∃ after, (c.evaluateAll fields).1.fields.find? field = some after ∧
        after.setup = state.setup ∧
        (after.valid = true ↔ ∃ head ∈ fields.takeWhile (· ≠ field), c.Unevaluable head) := by
  induction fields with
  | nil =>
    intro c state hsound hnodup hmem
    contradiction
  | cons head rest ih =>
    intro c state hsound hnodup hmem hfind hvalid hplain hfails
    rw [List.nodup_cons] at hnodup
    have hhead := hsound.evaluate head
    have herror := hsound.evaluate_eq_error_iff head
    by_cases hfield : head = field
    · -- its own evaluation makes the field invalid, and no other one changes that
      subst hfield
      obtain ⟨after, hafter, hsetup, hinvalid⟩ := hsound.exists_evaluated hfind hplain hfails
      have hlater := hhead.find?_evaluateAll_of_notMem hnodup.2 hnodup.1
      refine ⟨after, ?_, hsetup, by simp [hinvalid]⟩
      rw [evaluateAll]
      generalize c.evaluate head = evaluated at hafter hlater
      obtain ⟨d, result⟩ := evaluated
      cases result with
      | error e => exact hafter
      | ok => exact hlater.trans hafter
    · have htake : (head :: rest).takeWhile (· ≠ field) = head :: rest.takeWhile (· ≠ field) :=
        List.takeWhile_cons_of_pos (by simpa using hfield)
      have hfind' : (c.evaluate head).1.fields.find? field = some state := by
        obtain ⟨issued, -, hview⟩ := view_evaluate_later hsound hfield
        exact (congrArg View.state hview).trans hfind
      have hvalues := hsound.values_evaluate head
      have hunevaluable := hsound.unevaluable_evaluate_iff head
      rw [evaluateAll, htake, List.exists_mem_cons_iff, ← herror]
      generalize c.evaluate head = evaluated at hhead herror hfind' hvalues hunevaluable
      obtain ⟨d, result⟩ := evaluated
      cases result with
      | error e => exact ⟨state, hfind', rfl, by simp [hvalid]⟩
      | ok =>
        have hmem' : field ∈ rest := (List.mem_cons.1 hmem).resolve_left (Ne.symm hfield)
        obtain ⟨after, hafter, hsetup, hiff⟩ :=
          ih hhead hnodup.2 hmem' hfind' hvalid hplain (by rwa [hvalues])
        refine ⟨after, hafter, hsetup, hiff.trans ?_⟩
        simp [hunevaluable]

/-! ## Resets -/

/-- A field of the form just before it is evaluated. -/
theorem Sound.exists_renewed (hsound : c.Sound) (emptied : Bool)
    (hmem : field ∈ c.forms.fields form) :
    ∃ state, (c.renewedForm form emptied).fields.find? field = some state ∧
      state.valid = true := by
  have hrenewed := view_renewedForm hsound emptied hmem
  generalize hview : (c.renewedForm form emptied).view field = renewed at hrenewed
  cases hrenewed with
  | intro hstate touched => exact ⟨_, congrArg View.state hview, rfl⟩

/-- After a reset that keeps the fields, a field of the form whose chain only looks
at its own value and fails on it counts as valid just if a field that stands before
it in the form cannot be evaluated. -/
theorem valid_resetForm_iff_unevaluable (hreach : c.Reachable) (emptied : Bool)
    (hmem : field ∈ c.forms.fields form)
    (hfind : (c.resetForm form { emptyValues := emptied }).1.fields.find? field = some state)
    (hplain : state.Plain)
    (hfails : state.FailsOn
      ((c.resetForm form { emptyValues := emptied }).1.values.find? field)) :
    state.valid = true ↔ ∃ other ∈ (c.forms.fields form).takeWhile (· ≠ field),
      (c.resetForm form { emptyValues := emptied }).1.Unevaluable other := by
  have hsound := hreach.sound
  have hrenewed := hsound.renewedForm form emptied
  have hnodup := hsound.regular.forms.nodup form
  have hvalues := values_evaluateAll hrenewed (c.forms.fields form)
  rw [resetForm_eq] at hfind hfails ⊢
  -- what the field was before its evaluation differs from what it is now in its result only
  obtain ⟨before, hbefore, hvalid⟩ := hsound.exists_renewed emptied hmem
  have hbasis : ∀ other, ((((c.renewedForm form emptied).evaluateAll
      (c.forms.fields form)).1).view other).basis =
        ((c.renewedForm form emptied).view other).basis := by
    intro other
    refine (evaluateAll_keeps (motive := fun d => d.Sound ∧ (d.view other).basis =
      ((c.renewedForm form emptied).view other).basis) ?_ _ ⟨hrenewed, rfl⟩).2
    rintro d head ⟨hd, hbasis⟩
    exact ⟨hd.evaluate head, (basis_evaluate hd head other).trans hbasis⟩
  have hengine := (allEvaluated _ hrenewed hnodup).engine
  obtain ⟨now, hnow, hsetup⟩ := exists_state_of_basis (hbasis field) hbefore
  obtain rfl : state = now := Option.some.inj (hfind.symm.trans hnow)
  have hplain' : before.Plain := (FieldState.Plain.congr hsetup).1 hplain
  have hfails' : before.FailsOn ((c.renewedForm form emptied).values.find? field) := by
    rw [← FieldState.FailsOn.congr hsetup, ← hvalues]
    exact hfails
  obtain ⟨after, hafter, -, hiff⟩ :=
    valid_evaluateAll_iff _ hrenewed hnodup hmem hbefore hvalid hplain' hfails'
  obtain rfl : state = after := Option.some.inj (hfind.symm.trans hafter)
  rw [hiff]
  refine exists_congr fun other => and_congr_right fun _ => ?_
  constructor
  · intro h
    exact h.of_basis (hbasis other) hvalues hengine
  · intro h
    exact h.of_basis (hbasis other).symm hvalues.symm hengine.symm

/-- The messages of all rules but one are missing.  Both fields of the form are
wrong, and the first one has no message. -/
def speechless : Context :=
  (start (Message.Table.empty.withMessage "INVALID_REQUIRED" "Field is required.").translator
      {} []).run
    [.register { name := "name", rules := "alpha", form := some "form", value := some "1" },
      .register { name := "town", rules := "required", form := some "form" }]

theorem Reachable.speechless : speechless.Reachable :=
  (Reachable.start _ _ _).run _

/-- The town is missing both before and after a reset.  It counts as wrong before. -/
theorem failsOn_speechless :
    speechless.isValid "town" = false ∧
      ∃ state, (speechless.resetForm "form" {}).1.fields.find? "town" = some state ∧
        state.disabled = false ∧ state.Plain ∧
        state.FailsOn ((speechless.resetForm "form" {}).1.values.find? "town") := by
  have hstate : ∀ state ∈ (speechless.resetForm "form" {}).1.fields.find? "town",
      state.disabled = false ∧ state.Plain ∧
        state.FailsOn ((speechless.resetForm "form" {}).1.values.find? "town") := by
    decide +kernel
  obtain ⟨state, hfind⟩ := Option.isSome_iff_exists.1
    (show ((speechless.resetForm "form" {}).1.fields.find? "town").isSome = true by decide +kernel)
  exact ⟨by decide +kernel, state, hfind, hstate state hfind⟩

/-- The name cannot be evaluated, so the town counts as valid afterwards. -/
theorem valid_town_speechless :
    ∃ state, (speechless.resetForm "form" {}).1.fields.find? "town" = some state ∧
      state.FailsOn ((speechless.resetForm "form" {}).1.values.find? "town") ∧
      state.valid = true := by
  obtain ⟨-, state, hfind, -, hplain, hfails⟩ := failsOn_speechless
  have hmem : "town" ∈ speechless.forms.fields "form" := by decide +kernel
  refine ⟨state, hfind, hfails, ?_⟩
  rw [valid_resetForm_iff_unevaluable .speechless false hmem hfind hplain hfails]
  have hfirst : "name" ∈ (speechless.forms.fields "form").takeWhile (· ≠ "town") := by
    decide +kernel
  have hname : ∀ state ∈ (speechless.resetForm "form" {}).1.fields.find? "name",
      ((speechless.resetForm "form" {}).1.evaluation state).toOption = none := by
    decide +kernel
  obtain ⟨name, hfound⟩ := Option.isSome_iff_exists.1
    (show ((speechless.resetForm "form" {}).1.fields.find? "name").isSome = true by decide +kernel)
  refine ⟨"name", hfirst, name, ?_⟩
  cases heval : (speechless.resetForm "form" {}).1.evaluation name with
  | error e => exact ⟨e, hfound, rfl⟩
  | ok e =>
    have hnone := hname name hfound
    rw [heval] at hnone
    cases hnone

/-- A reset does not leave every field invalid whose chain fails on its value. -/
theorem not_forall_resetForm_invalid :
    ¬ ∀ (c : Context) (form field : String) (emptied : Bool) (state : FieldState), c.Reachable →
      field ∈ c.forms.fields form →
      (c.resetForm form { emptyValues := emptied }).1.fields.find? field = some state →
      state.disabled = false → state.Plain →
      state.FailsOn ((c.resetForm form { emptyValues := emptied }).1.values.find? field) →
      state.valid = false := by
  intro hforall
  obtain ⟨-, state, hfind, henabled, hplain, hfails⟩ := failsOn_speechless
  have hmem : "town" ∈ speechless.forms.fields "form" := by decide +kernel
  have hinvalid := hforall speechless "form" "town" false state .speechless hmem hfind henabled
    hplain hfails
  have hvalid : ∀ state ∈ (speechless.resetForm "form" {}).1.fields.find? "town",
      state.valid = true := by
    decide +kernel
  rw [hvalid state hfind] at hinvalid
  cases hinvalid

end Context

end FieldRules
