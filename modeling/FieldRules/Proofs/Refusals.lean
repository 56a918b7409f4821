import FieldRules.Proofs.DependencyEdges

/-!
# Refused operations change nothing

An operation that is refused because of its arguments, be it a name or a chain of
rules, leaves all of a context as it was.  These errors are found before
anything is changed: once an evaluation has begun, the only error left is a
message that has no text.

* `ConfigError.IsAboutArguments`: the errors in question.
* `Engine.untranslatable_of_evaluate`: the errors of evaluations.
* `Attempt.unchanged`: an operation on one field.
* `unchanged_of_refused`: every operation.
-/

namespace FieldRules

namespace ConfigError

/-- The error is about a name or a chain of rules that an operation was given. -/
def IsAboutArguments : ConfigError → Prop
  | malformedRange .. | malformedLiteral .. | missingLiteral .. | unknownRule .. | paramCount ..
  | invalidBound .. | invalidPattern .. | missingCallback .. | missingFieldName
  | unknownField .. => True
  | callbackFailed .. | untranslatable .. => False

/-- The error is a message that has no text. -/
def IsUntranslatable (e : ConfigError) : Prop :=
  ∃ key cause, e = untranslatable key cause

theorem IsUntranslatable.not_isAboutArguments {e : ConfigError} (h : e.IsUntranslatable) :
    ¬ e.IsAboutArguments := by
  obtain ⟨key, cause, rfl⟩ := h
  exact id

end ConfigError

/-! ## Evaluations -/

namespace Engine

variable {engine : Engine} {value : Option String} {others : String → Option String}
  {error : ConfigError}

theorem untranslatable_of_resolve {translator : Message.Translator} {key : String}
    {params : List String} {alt : Option String}
    (h : Message.resolve translator key params alt = .error error) : error.IsUntranslatable := by
  unfold Message.resolve at h
  split at h
  · split at h <;> cases h
  · split at h <;> cases h
    exact ⟨_, _, rfl⟩

theorem untranslatable_of_run (validators : List Validator) :
    ∀ {index : Nat} {e : Evaluation},
      engine.run value others index validators e = .error error → error.IsUntranslatable := by
  induction validators with
  | nil => exact nofun
  | cons v rest ih =>
    intro index e hrun
    rw [run] at hrun
    split at hrun
    · exact ih hrun
    · dsimp only at hrun
      split at hrun
      · split at hrun
        · cases hrun
        · exact ih hrun
      · cases hmessage : Message.resolve engine.translator (v.failureKey (value.getD "")) v.params
          v.alt with
        | error cause =>
          rw [hmessage] at hrun
          cases hrun
          exact untranslatable_of_resolve hmessage
        | ok message =>
          rw [hmessage] at hrun
          exact ih hrun

/-- An evaluation fails only if a message has no text. -/
theorem untranslatable_of_evaluate {state : FieldState}
    (h : engine.evaluate state value others = .error error) : error.IsUntranslatable := by
  unfold evaluate at h
  split at h
  · cases h
  · cases hrun : engine.run value others 0 state.validators
      { target := state.requirement.target state.validators.length } with
    | error cause =>
      dsimp only at h
      rw [hrun] at h
      cases h
      exact untranslatable_of_run _ hrun
    | ok e =>
      dsimp only at h
      rw [hrun] at h
      cases h

end Engine

namespace Context

variable {c : Context} {field : String} {error : ConfigError}

theorem Wired.untranslatable_of_evaluate (hwired : c.Wired)
    (herror : (c.evaluate field).2 = .error error) : error.IsUntranslatable := by
  cases hfind : c.fields.find? field with
  | none =>
    rw [evaluate_of_unregistered c hfind] at herror
    cases herror
  | some state =>
    obtain ⟨hname, hfield⟩ := hwired.named field state hfind
    rw [evaluate_eq c hfind hname hfield] at herror
    cases hresult : c.evaluation state with
    | ok e =>
      rw [hresult] at herror
      cases herror
    | error cause =>
      rw [hresult] at herror
      cases herror
      exact Engine.untranslatable_of_evaluate hresult

theorem Wired.untranslatable_of_evaluateAll (hwired : c.Wired) (fields : List String)
    (herror : (c.evaluateAll fields).2 = .error error) : error.IsUntranslatable :=
  (evaluateAll_induction ConfigError.IsUntranslatable
    (fun _ field hwired => hwired.evaluate field)
    (fun _ _ _ hwired herror => hwired.untranslatable_of_evaluate herror) fields hwired).2 error
    herror

theorem Wired.untranslatable_of_flush (hwired : c.Wired) (fields : List String)
    (herror : (c.flush fields).2 = .error error) : error.IsUntranslatable := by
  have hcancel : ∀ {c : Context} (field : String), c.Wired → (c.cancel field).Wired :=
    fun _ hwired => hwired.congr rfl rfl
  refine (flush_induction ConfigError.IsUntranslatable ?_ ?_ fields hwired).2 error herror
  · exact fun _ field hwired => (hcancel field hwired).evaluate field
  · exact fun _ field _ hwired herror => (hcancel field hwired).untranslatable_of_evaluate herror

theorem Wired.untranslatable_of_checkForm (hwired : c.Wired) {form : String}
    (herror : (c.checkForm form).2 = .error error) : error.IsUntranslatable := by
  have hflush : (c.flush (c.forms.fields form)).2 = .error error → error.IsUntranslatable :=
    hwired.untranslatable_of_flush _
  unfold Context.checkForm at herror
  dsimp only at herror
  generalize c.flush (c.forms.fields form) = flushed at hflush herror
  obtain ⟨d, result⟩ := flushed
  cases result with
  | error cause =>
    cases herror
    exact hflush rfl
  | ok => cases herror

theorem Wired.untranslatable_of_resetForm (hwired : c.Wired) {form : String}
    {options : ResetOptions} (herror : (c.resetForm form options).2 = .error error) :
    error.IsUntranslatable := by
  unfold Context.resetForm at herror
  dsimp only at herror
  split at herror
  · cases herror
  · exact (hwired.renewedForm form options.emptyValues).untranslatable_of_evaluateAll _ herror

/-! ## Operations -/

/-- If an operation on a field is refused because of its arguments, nothing has
been evaluated. -/
theorem Attempt.unchanged {attempted : Context × Except ConfigError Unit}
    (hattempt : c.Attempt field attempted) (herror : attempted.2 = .error error)
    (harguments : error.IsAboutArguments) : attempted.1 = c := by
  cases hattempt with
  | refused => rfl
  | done => cases herror
  | evaluated hready =>
    exact absurd harguments (hready.untranslatable_of_evaluate herror).not_isAboutArguments

theorem eq_error_of_ofResult {α : Type} {say : α → Answer} (hsay : ∀ value, say value ≠ .refused error)
    {result : Except ConfigError α} (h : Answer.ofResult say result = .refused error) :
    result = .error error := by
  cases result with
  | ok value => exact absurd h (hsay value)
  | error cause =>
    cases h
    rfl

/-- An operation that is refused because of its arguments changes nothing. -/
theorem unchanged_of_refused (hreach : c.Reachable) (operation : Operation)
    (hrefused : (c.perform operation).2 = .refused error) (harguments : error.IsAboutArguments) :
    (c.perform operation).1 = c := by
  have hwired := hreach.wired
  have hnot : ¬ error.IsUntranslatable := fun h => h.not_isAboutArguments harguments
  have hdone : ∀ {result : Except ConfigError Unit},
      Answer.ofResult (fun _ => .done) result = .refused error → result = .error error :=
    eq_error_of_ofResult fun _ h => by cases h
  have hreport : ∀ {result : Except ConfigError Report},
      Answer.ofResult .report result = .refused error → result = .error error :=
    eq_error_of_ofResult fun _ h => by cases h
  have hflag : ∀ {result : Except ConfigError Bool},
      Answer.ofResult .flag result = .refused error → result = .error error :=
    eq_error_of_ofResult fun _ h => by cases h
  cases operation with
  | register registration =>
    exact (hwired.attempt_register registration).unchanged (hdone hrefused) harguments
  | setRules field rules =>
    exact (hwired.attempt_setRules field rules).unchanged (hdone hrefused) harguments
  | setValue field value =>
    exact (hwired.attempt_change field (some value)).unchanged (hdone hrefused) harguments
  | clearValue field =>
    exact (hwired.attempt_change field none).unchanged (hdone hrefused) harguments
  | setDisabled field disabled =>
    exact (hwired.attempt_setDisabled field disabled).unchanged (hdone hrefused) harguments
  | validate field =>
    have herror : (c.validate field).2 = .error error := hreport hrefused
    exact (hwired.attempt_validate field).unchanged (by rw [herror]; rfl) harguments
  | checkForm form => exact absurd (hwired.untranslatable_of_checkForm (hflag hrefused)) hnot
  | resetForm form options =>
    exact absurd (hwired.untranslatable_of_resetForm (hdone hrefused)) hnot
  | unregister | advance | setCallback | removeCallback | takeErrors => cases hrefused

/-- A field has been invalid, and its evaluation with another value waits. -/
def waitingName : Context :=
  (start Message.english.translator { debounce := 100 } []).run
    [.register { name := "name", rules := "required|min_len:3", form := some "form" },
      .setValue "name" "ann"]

/-- It stays so when the field is registered again with rules that make no sense. -/
theorem unchanged_of_refused_waitingName :
    waitingName.clock.isPending "name" = true ∧ waitingName.isValid "name" = false ∧
      (waitingName.register { name := "name", rules := "alpha|min_len:few" }).2 =
        .error (.invalidBound "min_len" "few" .notCount) ∧
      (waitingName.perform (.register { name := "name", rules := "alpha|min_len:few" })).1 =
        waitingName := by
  have hreach : waitingName.Reachable := (Reachable.start _ _ _).run _
  have hrefused : (waitingName.register { name := "name", rules := "alpha|min_len:few" }).2 =
      .error (.invalidBound "min_len" "few" .notCount) := by
    decide +kernel
  have hanswer : ∀ {c : Context} {registration : Registration} {error : ConfigError},
      (c.register registration).2 = .error error →
        (c.perform (.register registration)).2 = .refused error :=
    congrArg (Answer.ofResult fun _ => .done)
  exact ⟨by decide +kernel, by decide +kernel, hrefused,
    unchanged_of_refused hreach _ (hanswer hrefused) trivial⟩

end Context

end FieldRules
