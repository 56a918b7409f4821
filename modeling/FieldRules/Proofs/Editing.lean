import FieldRules.Proofs.Evolution

/-!
# The operations on single fields

Each operation on a field makes a sound context evolve.  What an operation does
before it evaluates the field is one of the changes that `Prepares` lists, and
what it does without evaluating the field is one `Move`.

* `evolves_register`, `evolves_remove`, `evolves_setRules`: which fields there
  are, and their rules.
* `evolves_change`: the values, with the fields that depend on them.
* `evolves_validate`, `evolves_setDisabled`: one field.
-/

namespace FieldRules

namespace Context

variable {c : Context} {field other : String} {state : FieldState}

/-! ## Removal -/

theorem remove_of_registered (hfind : c.fields.find? field = some state) :
    c.remove field = ({ c with
      generations := c.generations.forget field
      clock := c.clock.cancel field
      fields := c.fields.drop field
      values := c.values.set field none
      forms := c.forms.remove field
      summary := c.summary.remove field
      dependencies := (c.dependencies.removeDependent field).1 } : Context).note
        (.removed field) := by
  unfold remove
  dsimp only
  rw [if_pos (by simp [isRegistered, Assoc.has, hfind])]

theorem remove_of_unregistered (hfind : c.fields.find? field = none) :
    c.remove field = { c.cancel field with generations := c.generations.forget field } := by
  unfold remove
  dsimp only
  rw [if_neg (by simp [isRegistered, Assoc.has, hfind])]
  rfl

theorem view_remove_self (hfind : c.fields.find? field = some state) :
    (c.remove field).view field = (c.view field).removed field := by
  rw [remove_of_registered hfind]
  simp only [view, note, underWay, marks, View.removed, Assoc.find?_drop_self, Values.find?_set_self,
    Forms.formOf?_remove_self, Summary.get?_remove_self, Clock.isPending_cancel_self,
    Clock.inquiries_cancel, Generations.current?_forget_self, List.filter_append]
  simp [Generations.forget, Mark.field]

theorem view_remove_of_ne (hne : field ≠ other) : (c.remove field).view other = c.view other := by
  cases hfind : c.fields.find? field with
  | none =>
    rw [remove_of_unregistered hfind]
    simp only [view, cancel, underWay, marks, Clock.isPending_cancel_of_ne _ hne,
      Clock.inquiries_cancel, Generations.current?_forget_of_ne _ hne]
    rfl
  | some state =>
    rw [remove_of_registered hfind]
    simp only [view, note, underWay, marks, Assoc.find?_drop_of_ne _ hne,
      Values.find?_set_of_ne _ _ hne, Forms.formOf?_remove_of_ne _ hne,
      Summary.get?_remove_of_ne _ hne, Clock.isPending_cancel_of_ne _ hne,
      Clock.inquiries_cancel, Generations.current?_forget_of_ne _ hne, List.filter_append]
    simp [Generations.forget, Mark.field, hne]

theorem find?_remove_self (c : Context) (field : String) :
    (c.remove field).fields.find? field = none := by
  cases hfind : c.fields.find? field with
  | none =>
    rw [remove_of_unregistered hfind]
    exact hfind
  | some state => exact congrArg View.state (view_remove_self hfind)

theorem Regular.remove (hregular : c.Regular) (field : String) : (c.remove field).Regular := by
  cases hfind : c.fields.find? field with
  | none =>
    rw [remove_of_unregistered hfind]
    exact ⟨hregular.summary, hregular.forms, hregular.clock.cancel field⟩
  | some state =>
    rw [remove_of_registered hfind]
    exact ⟨hregular.summary.remove field, hregular.forms.remove field, hregular.clock.cancel field⟩

theorem engine_remove (c : Context) (field : String) : (c.remove field).engine = c.engine := by
  unfold remove
  dsimp only
  split <;> rfl

theorem evolves_remove (hsound : c.Sound) (field : String) : Evolves c (c.remove field) := by
  refine .of_views field (hsound.regular.remove field) (engine_remove c field) ?_
    fun other hother => .of_eq (view_remove_of_ne hother)
  cases hfind : c.fields.find? field with
  | none =>
    have habsent := hsound.absent hfind
    refine .of_eq ?_
    rw [remove_of_unregistered hfind]
    simp only [view, cancel, underWay, marks, Clock.isPending_cancel_self, Clock.inquiries_cancel,
      Generations.current?_forget_self]
    rw [← habsent.waiting, ← habsent.current]
    rfl
  | some state =>
    rw [view_remove_self hfind]
    exact .single (.removed hfind)

/-! ## Registration -/

theorem view_enroll_self (registration : Registration) (compiled : Rule.Compiled)
    (habsent : (c.view registration.name).Absent) :
    (c.enroll registration compiled).view registration.name =
      { c.view registration.name with
        state := some (registration.state compiled c.config)
        value := registration.value
        form := registration.form } := by
  have hvalue : c.values.find? registration.name = none := habsent.value
  have hform : c.forms.formOf? registration.name = none := habsent.form
  have hname : (registration.state compiled c.config).name = registration.name := rfl
  unfold enroll
  cases registration.value <;> cases registration.form <;>
    simp only [view, put, underWay, marks, depend, hname, hvalue, hform, Values.find?_set_self,
      Forms.formOf?_insert_self, Assoc.find?_put_self]

theorem view_enroll_of_ne (registration : Registration) (compiled : Rule.Compiled)
    (hne : registration.name ≠ other) :
    (c.enroll registration compiled).view other = c.view other := by
  have hname : (registration.state compiled c.config).name = registration.name := rfl
  unfold enroll
  cases registration.value <;> cases registration.form <;>
    simp only [view, put, underWay, marks, depend, hname, Values.find?_set_of_ne _ _ hne,
      Forms.formOf?_insert_of_ne _ _ hne, Assoc.find?_put_of_ne _ _ hne]

theorem Regular.enroll (hregular : c.Regular) (registration : Registration)
    (compiled : Rule.Compiled) : (c.enroll registration compiled).Regular := by
  unfold Context.enroll
  dsimp only
  cases registration.value <;> cases registration.form <;>
    first
    | exact ⟨hregular.summary, hregular.forms, hregular.clock⟩
    | exact ⟨hregular.summary, hregular.forms.insert _ _, hregular.clock⟩

theorem engine_enroll (c : Context) (registration : Registration) (compiled : Rule.Compiled) :
    (c.enroll registration compiled).engine = c.engine := by
  unfold enroll
  dsimp only
  cases registration.value <;> cases registration.form <;> rfl

/-- Rules that have compiled for a context have compiled. -/
theorem compile_eq_ok {rules : String} {compiled : Rule.Compiled}
    (hcompile : c.compile rules = .ok compiled) : Rule.compile rules = .ok compiled := by
  unfold compile at hcompile
  cases hrules : Rule.compile rules with
  | error e =>
    rw [hrules] at hcompile
    cases hcompile
  | ok found =>
    rw [hrules] at hcompile
    dsimp only [bind, Except.bind] at hcompile
    split at hcompile
    · cases hcompile
    · cases hcompile
      rfl

theorem evolves_register (hsound : c.Sound) (registration : Registration) :
    Evolves c (c.register registration).1 := by
  unfold register
  split
  · exact .refl hsound.regular
  · rename_i hname
    have hname : registration.name ≠ "" := fun h => hname (by rw [h]; rfl)
    cases hcompile : c.compile registration.rules with
    | error e => exact .refl hsound.regular
    | ok compiled =>
      dsimp only
      obtain ⟨d, hd, hevolves, hfind⟩ : ∃ d : Context,
          (if c.isRegistered registration.name then c.remove registration.name else c) = d ∧
          Evolves c d ∧ d.fields.find? registration.name = none := by
        split
        · have hevolves := evolves_remove hsound registration.name
          refine ⟨_, rfl, hevolves, ?_⟩
          exact find?_remove_self c registration.name
        · rename_i hregistered
          refine ⟨_, rfl, .refl hsound.regular, ?_⟩
          simpa [isRegistered, Assoc.has] using hregistered
      rw [hd]
      have hsound := hevolves.sound hsound
      refine hevolves.trans (evolves_evaluate hsound
        (hsound.regular.enroll registration compiled) (engine_enroll d registration compiled) ?_ ?_)
      · rw [view_enroll_self _ _ (hsound.absent hfind)]
        exact .enrolled hfind registration d.config rfl hname (compile_eq_ok hcompile)
      · intro other hother
        exact .of_eq (view_enroll_of_ne _ _ hother)

/-! ## Rules -/

theorem view_suspend_self (state : FieldState) :
    (c.suspend state).view state.name =
      { c.view state.name with
        state := some state.suspended
        entry := none
        waiting := false
        current := some ((c.view state.name).issued + 1)
        issued := (c.view state.name).issued + 1 } := by
  rw [suspend, view_dismiss_self, view_put_self _ (by rfl), view_invalidate_self, view_cancel_self]

theorem view_suspend_of_ne (hne : state.name ≠ other) :
    (c.suspend state).view other =
      { c.view other with issued := (c.view other).issued + 1 } := by
  rw [suspend, view_dismiss_of_ne _ hne, view_put_of_ne _ (by exact hne),
    view_invalidate_of_ne _ hne, view_cancel_of_ne _ hne]

theorem Regular.suspend (hregular : c.Regular) (state : FieldState) : (c.suspend state).Regular :=
  (((hregular.cancel _).invalidate _).put _).dismiss _

/-- The validation of a field stops for a reason that the journal tells. -/
theorem evolves_suspend (state : FieldState) (hname : state.name = field) {mark : Mark}
    (hmark : mark.field = field) {d : Context} (hregular : d.Regular)
    (hengine : d.engine = c.engine) (hview : ∀ other, d.view other = (c.note mark).view other)
    (hmove : Move c.engine field (c.view field) ((c.view field).suspended state mark)) :
    Evolves c (d.suspend state) := by
  subst hname
  refine .of_views state.name (hregular.suspend state) hengine ?_ ?_
  · rw [view_suspend_self, hview, view_note_self c hmark]
    exact .single hmove
  · intro other hother
    rw [view_suspend_of_ne hother, hview, view_note_of_ne c mark (hmark ▸ hother)]
    exact .single (.elsewhere (Nat.le_succ _))

theorem evolves_setRules (hsound : c.Sound) (field rules : String) :
    Evolves c (c.setRules field rules).1 := by
  unfold setRules
  cases hcompile : c.compile rules with
  | error e => exact .refl hsound.regular
  | ok compiled =>
    cases hfind : c.fields.find? field with
    | none => exact .refl hsound.regular
    | some state =>
      have hname := (hsound.present hfind).name
      have hregular : ((c.note (.ruled field)).redepend (state.withRules rules compiled)).Regular :=
        ⟨hsound.regular.summary, hsound.regular.forms, hsound.regular.clock⟩
      dsimp only
      split
      · rename_i hempty
        exact evolves_suspend (state.withRules rules compiled) hname rfl hregular rfl
          (fun _ => rfl)
          (.unruled hfind rules (compile_eq_ok hcompile) (List.isEmpty_iff.1 hempty))
      · rename_i hrules
        have hruled : (state.ruled rules compiled).name = field := hname
        refine evolves_evaluate hsound (hregular.put _) rfl ?_ ?_
        · rw [view_put_self _ hruled, view_redepend, view_note_self c (by rfl)]
          exact .ruled hfind rules (compile_eq_ok hcompile) (by simpa using hrules)
        · intro other hother
          refine .of_eq ?_
          rw [view_put_of_ne _ (hruled ▸ hother), view_redepend,
            view_note_of_ne c (.ruled field) hother]

/-! ## Values -/

/-- The context with the value of a field changed, before any evaluation. -/
def withChange (c : Context) (state : FieldState) (value : Option String) : Context :=
  { c.put state.changed with values := c.values.set state.name value }.note
    (.changed state.name value)

theorem view_withChange_self (hname : state.name = field) (value : Option String) :
    (c.withChange state value).view field =
      (c.view field).changed field state value (c.view field).waiting := by
  subst hname
  have hname : state.changed.name = state.name := rfl
  rw [withChange, view_note_self _ (by rfl)]
  simp only [view, put, underWay, marks, hname, Assoc.find?_put_self, Values.find?_set_self]
  rfl

theorem view_withChange_of_ne (hne : state.name ≠ other) (value : Option String) :
    (c.withChange state value).view other = c.view other := by
  have hname : state.changed.name = state.name := rfl
  rw [withChange, view_note_of_ne _ (.changed state.name value) hne]
  simp only [view, put, underWay, marks, hname, Assoc.find?_put_of_ne _ _ hne,
    Values.find?_set_of_ne _ _ hne]

theorem Regular.withChange (hregular : c.Regular) (state : FieldState) (value : Option String) :
    (c.withChange state value).Regular :=
  ⟨hregular.summary, hregular.forms, hregular.clock⟩

/-- With a delay the evaluation of a field waits, in place of the one that
waited before. -/
theorem schedule_succ (c : Context) (field : String) {delay : Nat} (hdelay : delay ≠ 0) :
    c.schedule field delay =
      { c with clock := (c.clock.cancel field).set (some field) delay (.evaluate field) } := by
  unfold schedule Clock.schedule
  rw [if_neg hdelay]
  rfl

theorem underWay_schedule_perm (c : Context) (field : String) {delay : Nat} (hdelay : delay ≠ 0) :
    (c.schedule field delay).underWay.Perm c.underWay := by
  rw [schedule_succ c field hdelay]
  refine List.Perm.append_left c.ready ?_
  have hset := Clock.inquiries_set_key (c.clock.cancel field) field delay (.evaluate field)
  rwa [Clock.inquiries_cancel] at hset

theorem view_schedule_self (c : Context) (field : String) {delay : Nat} (hdelay : delay ≠ 0) :
    (c.schedule field delay).view field = { c.view field with waiting := true } := by
  have hunderWay := (underWay_schedule_perm c field hdelay).filter (·.field = field)
  rw [schedule_succ c field hdelay] at hunderWay ⊢
  ext1
  case waiting =>
    simp only [view, Clock.isPending_set]
    simp
  case inquiries => exact Multiset.coe_eq_coe.2 hunderWay
  all_goals rfl

theorem view_schedule_of_ne (c : Context) {delay : Nat} (hdelay : delay ≠ 0) (hne : field ≠ other) :
    (c.schedule field delay).view other = c.view other := by
  have hunderWay := (underWay_schedule_perm c field hdelay).filter (·.field = other)
  rw [schedule_succ c field hdelay] at hunderWay ⊢
  ext1
  case waiting =>
    simp only [view, Clock.isPending_set, Clock.isPending_cancel_of_ne _ hne]
    simp [hne]
  case inquiries => exact Multiset.coe_eq_coe.2 hunderWay
  all_goals rfl

/-- The context with the value of a field changed, in which the field is evaluated
after its delay if it is validated. -/
def rescheduled (c : Context) (state : FieldState) (value : Option String) : Context :=
  if state.status = .cancelled then c.withChange state value
  else (c.withChange state value).schedule state.name state.debounce

theorem change_eq (hfind : c.fields.find? field = some state) (hname : state.name = field)
    (value : Option String) :
    c.change field value =
      ((c.dependencies.dependentsOf field).foldl (fun c dependent => c.schedule dependent 0)
        (c.rescheduled state value), .ok ()) := by
  subst hname
  unfold change
  rw [hfind]
  rfl

theorem evolves_rescheduled (hsound : c.Sound) (hfind : c.fields.find? field = some state)
    (value : Option String) : Evolves c (c.rescheduled state value) := by
  obtain rfl := (hsound.present hfind).name
  have hregular := hsound.regular.withChange state value
  have hself : (c.withChange state value).view state.name =
      (c.view state.name).changed state.name state value (c.view state.name).waiting :=
    view_withChange_self rfl value
  have hothers := fun other (hother : state.name ≠ other) =>
    view_withChange_of_ne (c := c) hother value
  unfold rescheduled
  split
  · rename_i hidle
    refine .of_views state.name hregular rfl ?_ fun other hother =>
      .of_eq (hothers other hother)
    rw [hself]
    exact .single (.unseen hfind hidle value)
  · rename_i hactive
    by_cases hdelay : state.debounce = 0
    · rw [hdelay, schedule_zero]
      refine (evolves_evaluate hsound (hregular.cancel state.name) rfl ?_ ?_).retain _
      · rw [view_cancel_self, hself]
        exact .changed hfind hactive value
      · intro other hother
        exact .of_eq ((view_cancel_of_ne _ hother).trans (hothers other hother))
    · refine .of_views state.name ?_ ?_ ?_ ?_
      · rw [schedule_succ _ _ hdelay]
        exact ⟨hregular.summary, hregular.forms, hregular.clock.set_evaluate _ _⟩
      · rw [schedule_succ _ _ hdelay]
        rfl
      · rw [view_schedule_self _ _ hdelay, hself]
        exact .single (.delayed hfind hactive value)
      · intro other hother
        exact .of_eq ((view_schedule_of_ne _ hdelay hother).trans (hothers other hother))

/-- The fields that depend on a field follow it, each of them at once. -/
theorem evolves_change (hsound : c.Sound) (field : String) (value : Option String) :
    Evolves c (c.change field value).1 := by
  cases hfind : c.fields.find? field with
  | none =>
    unfold change
    rw [hfind]
    exact .refl hsound.regular
  | some state =>
    rw [change_eq hfind (hsound.present hfind).name]
    have hfirst := evolves_rescheduled hsound hfind value
    exact hfirst.trans (.foldl (fun c dependent hsound => evolves_schedule_zero hsound dependent) _
      (hfirst.sound hsound))

/-! ## Single fields -/

theorem evolves_validate (hsound : c.Sound) (field : String) :
    Evolves c (c.validate field).1 := by
  unfold validate
  cases hfind : c.fields.find? field with
  | none => exact .refl hsound.regular
  | some state =>
    have hname := (hsound.present hfind).name
    have hevolves : Evolves c
        (((c.put { state with touched := true }).cancel field).evaluate field).1 := by
      refine evolves_evaluate hsound ((hsound.regular.put _).cancel field) rfl ?_ ?_
      · rw [view_cancel_self, view_put_self _ (by exact hname)]
        exact .touched hfind
      · intro other hother
        refine .of_eq ?_
        rw [view_cancel_of_ne _ hother, view_put_of_ne _ (by exact hname ▸ hother)]
    dsimp only
    generalize (((c.put { state with touched := true }).cancel field).evaluate field) = evaluated
      at hevolves
    obtain ⟨d, result⟩ := evaluated
    cases result with
    | error e => exact hevolves
    | ok =>
      dsimp only
      split <;> exact hevolves

theorem evolves_setDisabled (hsound : c.Sound) (field : String) (disabled : Bool) :
    Evolves c (c.setDisabled field disabled).1 := by
  unfold setDisabled
  cases hfind : c.fields.find? field with
  | none => exact .refl hsound.regular
  | some state =>
    have hname := (hsound.present hfind).name
    cases disabled with
    | true =>
      exact evolves_suspend { state with disabled := true } hname rfl
        (hsound.regular.note _) rfl (fun _ => rfl) (.disabled hfind)
    | false =>
      refine evolves_evaluate hsound (hsound.regular.put _) rfl ?_ ?_
      · rw [view_put_self _ (by exact hname)]
        exact .enabled hfind
      · intro other hother
        exact .of_eq (view_put_of_ne _ (by exact hname ▸ hother))

end Context

end FieldRules
