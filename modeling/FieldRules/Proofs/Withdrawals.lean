import FieldRules.Proofs.Following

/-!
# Values that are lost without a change

A field also loses its value when its form is reset with empty values, and when
it is unregistered.  Neither looks at the dependencies: a reset evaluates the
fields of its form, and nothing is evaluated when a field is removed.

* `Context.Withdraws`: the two ways in which fields lose their values.
* `Context.valueWithout`: the values that are left.
* `upToDate_withdraws_iff`: what a field stores is what an evaluation of these
  values finds just if the field was reset itself, or if what it has stored
  before still holds.
* `not_followsWithdrawal`: so fields do not always follow the values that they
  are compared with.
-/

namespace FieldRules

namespace Context

variable {c d : Context} {field other form : String} {state : FieldState} {gone : List String}

/-- Fields lose their values along with the reset of their form, or along with
their registration. -/
inductive Withdraws (c : Context) : (gone : List String) → Context → Prop where
  | emptied (form : String) :
      Withdraws c (c.forms.fields form) (c.resetForm form { emptyValues := true }).1
  | unregistered (field : String) : Withdraws c [field] (c.unregister field).1

/-- The value of a field when some fields have lost theirs. -/
def valueWithout (c : Context) (gone : List String) (field : String) : Option String :=
  if field ∈ gone then none else c.values.find? field

/-! ## Evaluating the fields of a form -/

/-- The fields of a list that ask no callback are up to date once they all have
been evaluated. -/
theorem upToDate_evaluateAll (fields : List String) :
    ∀ {c : Context} {state : FieldState}, c.Sound → ¬ c.engine.Fails →
      c.fields.find? field = some state → state.Immediate → (field ∈ fields ∨ c.UpToDate field) →
      (c.evaluateAll fields).1.UpToDate field := by
  induction fields with
  | nil => exact fun _ _ _ _ h => h.resolve_left List.not_mem_nil
  | cons head rest ih =>
    intro c state hsound hfine hfind himmediate h
    have hok := evaluate_ok hsound hfine head
    have hhead := hsound.evaluate head
    have hengine := hsound.engine_evaluate head
    obtain ⟨after, hafter, hsetup⟩ := exists_state_of_basis (basis_evaluate hsound head field) hfind
    have huptodate : field ∈ rest ∨ (c.evaluate head).1.UpToDate field := by
      by_cases hne : head = field
      · subst hne
        exact .inr (upToDate_evaluate hsound hfine hfind himmediate)
      · obtain ⟨issued, -, hview⟩ := view_evaluate_later hsound hne
        rw [List.mem_cons, or_iff_right (Ne.symm hne)] at h
        exact h.imp_right fun h => h.of_view (by rw [hview]) (hsound.values_evaluate head) hengine
    rw [evaluateAll]
    generalize c.evaluate head = evaluated at hok hhead hengine hafter huptodate
    obtain ⟨d, result⟩ := evaluated
    cases hok
    exact ih hhead (by rwa [hengine]) hafter ((FieldState.Immediate.congr hsetup).2 himmediate)
      huptodate

theorem values_evaluateAll (hsound : c.Sound) (fields : List String) :
    (c.evaluateAll fields).1.values = c.values := by
  refine (evaluateAll_keeps (motive := fun d => d.Sound ∧ d.values = c.values) ?_ fields
    ⟨hsound, rfl⟩).2
  rintro d field ⟨hsound, hvalues⟩
  exact ⟨hsound.evaluate field, (hsound.values_evaluate field).trans hvalues⟩

/-! ## The values that are left -/

theorem find?_values_foldl_renew (fields : List String) :
    ∀ c : Context, (fields.foldl (renew true) c).values.find? field =
      if field ∈ fields then none else c.values.find? field := by
  induction fields with
  | nil => exact fun c => (if_neg List.not_mem_nil).symm
  | cons head rest ih =>
    intro c
    have hvalues : (renew true c head).values = c.values.set head none := by
      unfold renew
      dsimp only
      split <;> rfl
    rw [List.foldl_cons, ih, hvalues]
    by_cases hne : head = field
    · subst hne
      rw [if_pos List.mem_cons_self, Values.find?_set_self, ite_self]
    · simp only [List.mem_cons, Ne.symm hne, false_or, Values.find?_set_of_ne _ _ hne]

theorem find?_values_renewedForm (c : Context) (form field : String) :
    (c.renewedForm form true).values.find? field = c.valueWithout (c.forms.fields form) field := by
  have houtdate : ((c.forms.fields form).foldl outdate c).values = c.values :=
    List.foldlRecOn (motive := fun d : Context => d.values = c.values) _ _ rfl fun d hd _ _ => hd
  rw [renewedForm, find?_values_foldl_renew, valueWithout, ← houtdate]
  rfl

theorem resetForm_eq (c : Context) (form : String) (emptied : Bool) :
    c.resetForm form { emptyValues := emptied } =
      (c.renewedForm form emptied).evaluateAll (c.forms.fields form) :=
  rfl

namespace Withdraws

theorem find?_values (hwithdraws : c.Withdraws gone d) (hsound : c.Sound) (field : String) :
    d.values.find? field = c.valueWithout gone field := by
  cases hwithdraws with
  | emptied form =>
    rw [resetForm_eq, values_evaluateAll (hsound.renewedForm form true)]
    exact find?_values_renewedForm c form field
  | unregistered source =>
    rw [valueWithout]
    by_cases hne : source = field
    · subst hne
      rw [if_pos List.mem_cons_self]
      exact (((evolves_remove hsound source).sound hsound).absent (find?_remove_self c source)).value
    · rw [if_neg (by simpa using Ne.symm hne)]
      exact congrArg View.value (view_remove_of_ne hne)

theorem engine (hwithdraws : c.Withdraws gone d) (hsound : c.Sound) : d.engine = c.engine := by
  cases hwithdraws with
  | emptied form => exact (evolves_resetForm hsound form _).engine
  | unregistered source => exact engine_remove c source

/-- Fields that keep their values keep all that is known about them. -/
theorem find?_fields (hwithdraws : c.Withdraws gone d) (hsound : c.Sound) (hnot : field ∉ gone) :
    d.fields.find? field = c.fields.find? field := by
  cases hwithdraws with
  | emptied form =>
    have hall := allEvaluated (c.forms.fields form) (hsound.renewedForm form true)
      (hsound.regular.forms.nodup form)
    obtain ⟨issued, -, hview⟩ :=
      (view_renewedForm_of_notMem hsound true hnot).trans (hall.others field hnot)
    exact congrArg View.state hview
  | unregistered source =>
    exact congrArg View.state (view_remove_of_ne (Ne.symm (by simpa using hnot)))

/-- A field that loses its value and remains has been evaluated without it. -/
theorem upToDate_of_mem (hwithdraws : c.Withdraws gone d) (hsound : c.Sound)
    (hfine : ¬ c.engine.Fails) (hfind : c.fields.find? field = some state)
    (himmediate : state.Immediate) (hremains : d.isRegistered field = true) (hmem : field ∈ gone) :
    d.UpToDate field := by
  cases hwithdraws with
  | emptied form =>
    obtain ⟨after, hafter, hsetup⟩ : ∃ after,
        (c.renewedForm form true).fields.find? field = some after ∧ after.setup = state.setup := by
      have hrenewed := view_renewedForm hsound true hmem
      generalize hview : (c.renewedForm form true).view field = renewed at hrenewed
      cases hrenewed with
      | intro hbefore touched =>
        cases hfind.symm.trans hbefore
        exact ⟨_, congrArg View.state hview, rfl⟩
    have hfine' : ¬ (c.renewedForm form true).engine.Fails := by
      rwa [engine_renewedForm]
    exact upToDate_evaluateAll _ (hsound.renewedForm form true) hfine' hafter
      ((FieldState.Immediate.congr hsetup).2 himmediate) (.inl hmem)
  | unregistered source =>
    obtain rfl := List.mem_singleton.1 hmem
    obtain ⟨after, hafter⟩ := Option.isSome_iff_exists.1 hremains
    cases (find?_remove_self c field).symm.trans hafter

end Withdraws

/-! ## Who follows -/

/-- When fields lose their values, a field that remains and asks no callback is up
to date afterwards just if it has lost its own, or if what it has stored before
is what an evaluation of the values that are left finds. -/
theorem upToDate_withdraws_iff (hreach : c.Reachable)
    (henglish : c.translator = Message.english.translator) (hwithdraws : c.Withdraws gone d)
    (hfind : c.fields.find? field = some state) (himmediate : state.Immediate)
    (hremains : d.isRegistered field = true) :
    d.UpToDate field ↔ field ∈ gone ∨
      state.Reflects c.engine (c.valueWithout gone field) (c.valueWithout gone) := by
  have hsound := hreach.sound
  by_cases hmem : field ∈ gone
  · simp only [hmem, true_or, iff_true]
    exact hwithdraws.upToDate_of_mem hsound (Engine.not_fails_of_english henglish) hfind himmediate
      hremains hmem
  · have hvalues : d.values.find? = c.valueWithout gone :=
      funext (hwithdraws.find?_values hsound)
    rw [or_iff_right hmem, UpToDate, hwithdraws.find?_fields hsound hmem, hwithdraws.engine hsound,
      hvalues, hfind]
    simp

/-- Two fields have the same value, as they should, but only one is in a form. -/
def strayCopy : Context :=
  (start Message.english.translator {} []).run
    [.register { name := "word", rules := "required", form := some "form", value := some "owl" },
      .register { name := "copy", rules := "match:word", value := some "owl" }]

theorem Reachable.strayCopy : strayCopy.Reachable :=
  (Reachable.start _ _ _).run _

/-- The copy counts as valid when the form has been emptied, but is not. -/
theorem not_upToDate_strayCopy :
    strayCopy.isValid "copy" = true ∧
      ¬ (strayCopy.resetForm "form" { emptyValues := true }).1.UpToDate "copy" := by
  have hstate : ∀ state ∈ strayCopy.fields.find? "copy", state.Immediate ∧
      ¬ state.Reflects strayCopy.engine (strayCopy.valueWithout ["word"] "copy")
        (strayCopy.valueWithout ["word"]) := by
    decide +kernel
  obtain ⟨state, hfind⟩ := Option.isSome_iff_exists.1
    (show (strayCopy.fields.find? "copy").isSome = true by decide +kernel)
  obtain ⟨himmediate, hnot⟩ := hstate state hfind
  have hgone : strayCopy.forms.fields "form" = ["word"] := by decide +kernel
  refine ⟨by decide +kernel, ?_⟩
  rw [upToDate_withdraws_iff .strayCopy rfl (.emptied "form") hfind himmediate (by decide +kernel),
    hgone]
  exact not_or.2 ⟨by decide, hnot⟩

/-- All fields that are compared with a value that was lost are up to date. -/
def FollowsWithdrawal (c d : Context) (gone : List String) : Prop :=
  ∀ field state, d.fields.find? field = some state → state.disabled = false → state.Immediate →
    (∃ source ∈ gone, (c.values.find? source).isSome = true ∧ state.ComparesWith source) →
    d.UpToDate field

theorem not_followsWithdrawal_of (field source : String) (hgone : source ∈ gone)
    (hvalue : (c.values.find? source).isSome = true)
    (hremains : (d.fields.find? field).isSome = true)
    (hmissed : ∀ state ∈ d.fields.find? field, (state.disabled = false ∧ state.Immediate ∧
      state.ComparesWith source) ∧ ¬ state.Reflects d.engine (d.values.find? field) d.values.find?) :
    ¬ c.FollowsWithdrawal d gone := by
  intro hfollows
  obtain ⟨state, hfind⟩ := Option.isSome_iff_exists.1 hremains
  obtain ⟨⟨henabled, himmediate, hcompares⟩, hnot⟩ := hmissed state hfind
  obtain ⟨stored, hstored, hreflects⟩ :=
    hfollows field state hfind henabled himmediate ⟨source, hgone, hvalue, hcompares⟩
  cases hfind.symm.trans hstored
  exact hnot hreflects

/-- Neither way of losing a value lets all fields follow that are compared with it. -/
theorem not_followsWithdrawal :
    (¬ ∀ c form, Reachable c → c.translator = Message.english.translator →
      c.FollowsWithdrawal (c.resetForm form { emptyValues := true }).1 (c.forms.fields form)) ∧
    ¬ ∀ c field, Reachable c → c.translator = Message.english.translator →
      c.FollowsWithdrawal (c.unregister field).1 [field] := by
  constructor
  · intro hfollows
    refine not_followsWithdrawal_of "copy" "word" ?_ ?_ ?_ ?_
      (hfollows strayCopy "form" .strayCopy rfl) <;> decide +kernel
  · intro hfollows
    refine not_followsWithdrawal_of "copy" "word" ?_ ?_ ?_ ?_
      (hfollows strayCopy "word" .strayCopy rfl) <;> decide +kernel

end Context

end FieldRules
