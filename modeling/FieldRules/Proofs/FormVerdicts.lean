import FieldRules.Proofs.Freshness

/-!
# Checking a form tells the truth

If no field of a form compares with other fields or asks callbacks, checking the
form says whether an evaluation of the current values finds all of its fields
valid, and stores what these evaluations find.

* `View.basis`: what the evaluations of a field start from.
* `basis_flush`, `flush_ok`: checking a form leaves this as it is, and succeeds.
* `checkForm_truthful`: what checking a form says.
-/

namespace FieldRules

/-- What the evaluations of a field start from. -/
def View.basis (v : View) : Option FieldState × Option String :=
  (v.state.map (·.setup), v.value)

theorem View.basis_evaluated {v : View} {state : FieldState} (hstate : v.state = some state)
    (result : Except ConfigError Evaluation) : (v.evaluated state result).basis = v.basis := by
  unfold View.basis View.evaluated
  rw [hstate, Option.map_some, Option.map_some, FieldState.setup_evaluated]

namespace Context

variable {c : Context} {field other form : String} {state : FieldState}
  {others : String → Option String}

/-! ## What evaluations start from -/

theorem exists_state_of_basis {d : Context} (hbasis : (d.view field).basis = (c.view field).basis)
    (hfind : c.fields.find? field = some state) :
    ∃ after, d.fields.find? field = some after ∧ after.setup = state.setup := by
  have hstate : (d.fields.find? field).map (·.setup) = (c.fields.find? field).map (·.setup) :=
    congrArg Prod.fst hbasis
  rw [hfind] at hstate
  exact Option.map_eq_some_iff.1 hstate

theorem basis_evaluate (hsound : c.Sound) (field other : String) :
    ((c.evaluate field).1.view other).basis = (c.view other).basis := by
  cases hfind : c.fields.find? field with
  | none =>
    by_cases hother : field = other
    · subst hother
      rw [view_evaluate_of_unregistered c hfind]
      rfl
    · rw [view_evaluate_of_unregistered_of_ne c hfind hother]
      rfl
  | some state =>
    have hpresent := hsound.present hfind
    by_cases hother : field = other
    · subst hother
      rw [view_evaluate_self c hfind hpresent.name hpresent.named]
      exact View.basis_evaluated hfind _
    · rw [view_evaluate_of_ne c hfind hpresent.name hpresent.named hother]
      rfl

theorem basis_flush (fields : List String) (hsound : c.Sound) (other : String) :
    ((c.flush fields).1.view other).basis = (c.view other).basis := by
  refine (flush_keeps (motive := fun d => d.Sound ∧ (d.view other).basis = (c.view other).basis)
    ?_ fields ⟨hsound, rfl⟩).2
  rintro d field ⟨hsound, hbasis⟩
  refine ⟨(evolves_again hsound field).sound hsound, ?_⟩
  rw [cancel, evaluate_clock]
  exact (basis_evaluate hsound field other).trans hbasis

theorem basis_reveal (hsound : c.Sound) (field other : String) :
    ((c.reveal field).view other).basis = (c.view other).basis := by
  unfold reveal
  cases hfind : c.fields.find? field with
  | none => rfl
  | some state =>
    have hsetup := state.setup_revealed
    have hname : state.revealed.name = field :=
      (FieldState.name_of_setup hsetup).trans (hsound.present hfind).name
    dsimp only
    split
    · rfl
    · by_cases hother : field = other
      · subst hother
        rw [view_put_self _ hname]
        unfold View.basis
        rw [Option.map_some, hsetup]
        change _ = ((c.fields.find? field).map _, _)
        rw [hfind]
        rfl
      · rw [view_put_of_ne _ (hname ▸ hother)]

theorem basis_foldl_reveal (fields : List String) (other : String) :
    ∀ {c : Context}, c.Sound → (∀ field ∈ fields, c.clock.isPending field = false) →
      ((fields.foldl reveal c).view other).basis = (c.view other).basis := by
  induction fields with
  | nil => exact fun _ _ => rfl
  | cons head rest ih =>
    intro c hsound hnot
    have hfirst := evolves_reveal hsound (hnot head List.mem_cons_self)
    refine (ih (hfirst.sound hsound) fun field hmem => ?_).trans (basis_reveal hsound head other)
    rw [reveal_clock]
    exact hnot field (List.mem_cons_of_mem head hmem)

theorem foldl_reveal_clock (fields : List String) (c : Context) :
    (fields.foldl reveal c).clock = c.clock := by
  induction fields generalizing c with
  | nil => rfl
  | cons field rest ih => exact (ih _).trans (reveal_clock c field)

/-! ## Evaluations succeed -/

theorem evaluate_ok (hsound : c.Sound) (hfine : ¬ c.engine.Fails) (field : String) :
    (c.evaluate field).2 = .ok () := by
  cases hfind : c.fields.find? field with
  | none => rw [evaluate_of_unregistered c hfind]
  | some state =>
    have hpresent := hsound.present hfind
    obtain ⟨e, he⟩ : ∃ e, c.evaluation state = .ok e :=
      Engine.exists_evaluate hfine hpresent.compiled _ _
    rw [evaluate_eq c hfind hpresent.name hpresent.named, he]
    rfl

/-- The waiting evaluations of a form succeed. -/
theorem flush_ok (fields : List String) :
    ∀ {c : Context}, c.Sound → ¬ c.engine.Fails → (c.flush fields).2 = .ok () := by
  induction fields with
  | nil => exact fun _ _ => rfl
  | cons field rest ih =>
    intro c hsound hfine
    rw [flush]
    split
    · have hevolves := evolves_again hsound field
      have hok : ((c.cancel field).evaluate field).2 = .ok () := by
        rw [cancel, evaluate_clock]
        exact evaluate_ok hsound hfine field
      generalize (c.cancel field).evaluate field = evaluated at hevolves hok
      obtain ⟨d, result⟩ := evaluated
      cases hok
      exact ih (hevolves.sound hsound) (by rwa [hevolves.engine])
    · exact ih hsound hfine

theorem checkForm_eq (hok : (c.flush (c.forms.fields form)).2 = .ok ()) :
    c.checkForm form =
      ((c.forms.fields form).foldl reveal (c.flush (c.forms.fields form)).1,
        .ok ((c.forms.fields form).all (c.flush (c.forms.fields form)).1.isValid)) := by
  unfold checkForm
  dsimp only
  generalize c.flush (c.forms.fields form) = flushed at hok
  obtain ⟨d, result⟩ := flushed
  cases hok
  rfl

/-! ## What checking a form says -/

/-- An evaluation of a field as it is now, with its current value. -/
def Finds (c : Context) (field : String) (others : String → Option String) (e : Evaluation) :
    Prop :=
  ∃ state, c.fields.find? field = some state ∧
    c.engine.evaluate state (c.values.find? field) others = .ok e

/-- A check of a form has told the truth about the context before it: it says
whether all evaluations of the current values are valid, and has left each field
without a waiting evaluation and with what the evaluation finds. -/
structure Truthful (c : Context) (form : String) (others : String → Option String)
    (checked : Context × Except ConfigError Bool) : Prop where
  answers : ∃ valid, checked.2 = .ok valid
  valid_iff : checked.2 = .ok true ↔
    ∀ field ∈ c.forms.fields form, ∃ e, c.Finds field others e ∧ e.valid = true
  ended : ∀ field ∈ c.forms.fields form, checked.1.clock.isPending field = false
  stores : ∀ field ∈ c.forms.fields form, ∃ e state, c.Finds field others e ∧
    checked.1.fields.find? field = some state ∧ state.valid = e.valid ∧ state.message = e.message

theorem Finds.unique {e e' : Evaluation} (hfinds : c.Finds field others e)
    (hfinds' : c.Finds field others e') : e = e' := by
  obtain ⟨state, hfind, heval⟩ := hfinds
  obtain ⟨state', hfind', heval'⟩ := hfinds'
  rw [hfind, Option.some.injEq] at hfind'
  subst hfind'
  exact Except.ok.inj (heval.symm.trans heval')

/-- A field that has not changed since and does not wait stores what an
evaluation finds. -/
theorem Reachable.stores {d : Context} (hreach : c.Reachable)
    (henglish : c.translator = Message.english.translator) (hevolves : Evolves c d)
    (hbasis : (d.view field).basis = (c.view field).basis)
    (hnot : d.clock.isPending field = false) (hfind : c.fields.find? field = some state)
    (hplain : state.Plain) (others : String → Option String) :
    ∃ e after, c.Finds field others e ∧ d.fields.find? field = some after ∧
      after.valid = e.valid ∧ after.message = e.message := by
  have hsound := hreach.sound
  have hfine : ¬ c.engine.Fails := Engine.not_fails_of_english henglish
  obtain ⟨e, he⟩ := Engine.exists_evaluate hfine (hsound.present hfind).compiled
    (c.values.find? field) others
  have hvalue : d.values.find? field = c.values.find? field := congrArg Prod.snd hbasis
  obtain ⟨after, hafter, hsetup⟩ := exists_state_of_basis hbasis hfind
  have hfresh := View.Fresh.moves hfine (hreach.tracked field) (hsound.intact field)
    (fun state hstate => hreach.fresh henglish hstate) (hevolves.moves field) after hafter
  refine ⟨e, after, ⟨state, hfind, he⟩, hafter, ?_⟩
  refine hfresh.upToDate hnot ((FieldState.Plain.congr hsetup).2 hplain) others e ?_
  rw [FieldState.evaluate_congr hsetup]
  change c.engine.evaluate state (d.values.find? field) others = .ok e
  rw [hvalue]
  exact he

/-- Checking a form of plain fields tells the truth. -/
theorem checkForm_truthful (hreach : c.Reachable)
    (henglish : c.translator = Message.english.translator)
    (hplain : ∀ field ∈ c.forms.fields form, ∀ state, c.fields.find? field = some state →
      state.Plain)
    (others : String → Option String) : c.Truthful form others (c.checkForm form) := by
  have hsound := hreach.sound
  have hok := flush_ok (c.forms.fields form) hsound (Engine.not_fails_of_english henglish)
  have hflush := evolves_flush (c.forms.fields form) hsound
  have hended := isPending_flush (c.forms.fields form) hok
  have hcheck := evolves_checkForm hsound form
  rw [checkForm_eq hok] at hcheck ⊢
  have hstores : ∀ {d}, Evolves c d → (∀ field, (d.view field).basis = (c.view field).basis) →
      d.clock = (c.flush (c.forms.fields form)).1.clock → ∀ field ∈ c.forms.fields form,
      ∃ e after, c.Finds field others e ∧ d.fields.find? field = some after ∧
        after.valid = e.valid ∧ after.message = e.message := by
    intro d hevolves hbasis hclock field hmem
    obtain ⟨state, hfind⟩ := hsound.exists_state_of_mem hmem
    exact hreach.stores henglish hevolves (hbasis field) (by rw [hclock]; exact hended field hmem)
      hfind (hplain field hmem state hfind) others
  have hbasis := basis_flush (c.forms.fields form) hsound
  refine ⟨⟨_, rfl⟩, ?_, ?_, ?_⟩
  · rw [Except.ok.injEq, List.all_eq_true]
    refine forall₂_congr fun field hmem => ?_
    obtain ⟨e, after, hfinds, hafter, hvalid, -⟩ := hstores hflush hbasis rfl field hmem
    have hisValid : (c.flush (c.forms.fields form)).1.isValid field = e.valid := by
      rw [isValid, hafter, ← hvalid]
      rfl
    rw [hisValid]
    constructor
    · exact fun h => ⟨e, hfinds, h⟩
    · rintro ⟨e', hfinds', h⟩
      rw [hfinds.unique hfinds', h]
  · intro field hmem
    dsimp only
    rw [foldl_reveal_clock]
    exact hended field hmem
  · refine hstores hcheck (fun field => ?_) (foldl_reveal_clock _ _)
    exact (basis_foldl_reveal _ field (hflush.sound hsound) hended).trans (hbasis field)

/-- A field waits for its evaluation, another one of its form is invalid. -/
theorem checkForm_truthful_of_two_fields :
    let c := (start Message.english.translator { debounce := 100 } []).run
      [.register { name := "name", rules := "required", form := some "form" },
        .register { name := "town", rules := "required", form := some "form" },
        .setValue "name" "ann"]
    c.clock.isPending "name" = true ∧ (c.checkForm "form").2 = .ok false ∧
      c.Truthful "form" (fun _ => none) (c.checkForm "form") := by
  intro c
  have hreach : c.Reachable := (Reachable.start _ _ _).run _
  have hplain : ∀ field ∈ c.forms.fields "form", ∀ state ∈ c.fields.find? field, state.Plain := by
    decide +kernel
  exact ⟨by decide +kernel, by decide +kernel, checkForm_truthful hreach rfl hplain _⟩

end Context

end FieldRules
