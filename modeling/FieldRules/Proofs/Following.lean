import FieldRules.Proofs.DependencyEdges
import FieldRules.Proofs.FormVerdicts

/-!
# Fields follow the values they are compared with

When the value of a field changes, the fields that are compared with it are
evaluated at once, whatever their own delay.  A field that asks no callback then
stores what an evaluation of the new values finds.

* `FieldState.Reflects`, `Context.UpToDate`: a field stores what an evaluation of
  all current values finds.  The evaluation itself only looks at some of them.
* `Context.CaughtUp`: in addition, no evaluation of the field waits.
* `caughtUp_schedule_self`, `CaughtUp.schedule_of_ne`: what an evaluation
  without delay makes of its own field, and of the others.
* `followed_by_dependents`: every field that is compared with the one that has
  changed is caught up.
-/

namespace FieldRules

theorem FieldState.Immediate.congr {state other : FieldState} (hsetup : other.setup = state.setup) :
    other.Immediate ↔ state.Immediate :=
  iff_of_eq (congr_setup (f := Immediate) (fun _ => rfl) hsetup)

/-- The field stores what an evaluation of the values finds. -/
def FieldState.Reflects (state : FieldState) (engine : Engine) (value : Option String)
    (others : String → Option String) : Prop :=
  ∃ e, engine.evaluate state value others = .ok e ∧ state.valid = e.valid ∧
    state.message = e.message

instance (state : FieldState) (engine : Engine) (value : Option String)
    (others : String → Option String) : Decidable (state.Reflects engine value others) :=
  match heval : engine.evaluate state value others with
  | .ok e => decidable_of_iff (state.valid = e.valid ∧ state.message = e.message)
      (by simp [FieldState.Reflects, heval])
  | .error _ => .isFalse (by simp [FieldState.Reflects, heval])

/-- What a final evaluation finds is stored, also where the field is not
validated. -/
theorem FieldState.result_evaluated {engine : Engine} {state : FieldState} {value : Option String}
    {others : String → Option String} {e : Evaluation}
    (heval : engine.evaluate state value others = .ok e) (hfinal : e.isAwaiting = false)
    (generation : Nat) :
    (state.evaluated value generation (.ok e)).valid = e.valid ∧
      (state.evaluated value generation (.ok e)).message = e.message := by
  by_cases hidle : state.Idle
  · obtain ⟨hvalid, hmessage⟩ := Engine.evaluate_of_idle hidle heval
    rw [evaluated_of_idle hidle, hvalid, hmessage]
    exact ⟨rfl, rfl⟩
  · rw [evaluated_of_final hidle hfinal]
    exact ⟨valid_record _ _ _, message_record _ _ _⟩

namespace Context

variable {c d : Context} {field source other : String} {state : FieldState}

/-- The field stores what an evaluation of the current values finds. -/
def UpToDate (c : Context) (field : String) : Prop :=
  ∃ state, c.fields.find? field = some state ∧
    state.Reflects c.engine (c.values.find? field) c.values.find?

/-- The field is up to date, and no evaluation of it waits. -/
structure CaughtUp (c : Context) (field : String) : Prop where
  ended : c.clock.isPending field = false
  upToDate : c.UpToDate field

/-! ## Evaluations -/

theorem Sound.values_evaluate (hsound : c.Sound) (field : String) :
    (c.evaluate field).1.values = c.values := by
  cases hfind : c.fields.find? field with
  | none => rw [evaluate_of_unregistered c hfind]
  | some state =>
    have hpresent := hsound.present hfind
    rw [evaluate_eq c hfind hpresent.name hpresent.named]
    rfl

theorem values_retain (c : Context) (result : Except ConfigError Unit) :
    (c.retain result).values = c.values := by
  cases result <;> rfl

theorem clock_retain (c : Context) (result : Except ConfigError Unit) :
    (c.retain result).clock = c.clock := by
  cases result <;> rfl

/-- An evaluation looks at some values only, but finds what an evaluation of all of
them finds. -/
theorem evaluation_eq (c : Context) (state : FieldState) :
    c.evaluation state = c.engine.evaluate state (c.values.find? state.name) c.values.find? := by
  refine Engine.evaluate_congr_of_targets fun target hmem => ?_
  rw [Values.find?_subset, if_pos (List.mem_map_of_mem hmem)]

/-- A field that asks no callback is up to date once it has been evaluated. -/
theorem upToDate_evaluate (hsound : c.Sound) (hfine : ¬ c.engine.Fails)
    (hfind : c.fields.find? field = some state) (himmediate : state.Immediate) :
    (c.evaluate field).1.UpToDate field := by
  have hpresent := hsound.present hfind
  obtain ⟨e, he⟩ : ∃ e, c.evaluation state = .ok e :=
    Engine.exists_evaluate hfine hpresent.compiled _ _
  have hview := view_evaluate_self c hfind hpresent.name hpresent.named
  rw [he] at hview
  rw [evaluation_eq, hpresent.name] at he
  have hfinal := Engine.isAwaiting_of_immediate himmediate he
  refine ⟨_, congrArg View.state hview, e, ?_, FieldState.result_evaluated he hfinal _⟩
  rw [hsound.engine_evaluate, hsound.values_evaluate,
    FieldState.evaluate_congr (state.setup_evaluated _ _ _)]
  exact he

/-- What happens to other fields alone leaves a field up to date, as long as it
leaves the values. -/
theorem UpToDate.of_view (huptodate : c.UpToDate field)
    (hstate : (d.view field).state = (c.view field).state) (hvalues : d.values = c.values)
    (hengine : d.engine = c.engine) : d.UpToDate field := by
  obtain ⟨state, hfind, hreflects⟩ := huptodate
  refine ⟨state, hstate.trans hfind, ?_⟩
  rwa [hvalues, hengine]

/-! ## Evaluations after a delay, or without one -/

theorem Sound.cancel (hsound : c.Sound) (field : String) : (c.cancel field).Sound where
  regular := hsound.regular.cancel field
  intact other := by
    by_cases hother : field = other
    · subst hother
      rw [view_cancel_self]
      exact ⟨fun state hstate => { (hsound.intact field).present state hstate with },
        fun habsent => { (hsound.intact field).absent habsent with waiting := rfl }⟩
    · rw [view_cancel_of_ne c hother]
      exact hsound.intact other

theorem values_schedule (hsound : c.Sound) (field : String) (delay : Nat) :
    (c.schedule field delay).values = c.values := by
  by_cases hdelay : delay = 0
  · rw [hdelay, schedule_zero, evaluateUnseen, values_retain]
    exact (hsound.cancel field).values_evaluate field
  · rw [schedule_succ c field hdelay]

theorem basis_schedule (hsound : c.Sound) (field : String) (delay : Nat) (other : String) :
    ((c.schedule field delay).view other).basis = (c.view other).basis := by
  by_cases hdelay : delay = 0
  · rw [hdelay, schedule_zero, evaluateUnseen, view_retain]
    exact basis_evaluate (hsound.cancel field) field other
  · rw [schedule_succ c field hdelay]
    rfl

/-- The other fields see nothing of it. -/
theorem view_schedule_zero_of_ne (hsound : c.Sound) (hne : field ≠ other) :
    (c.view other).Later ((c.schedule field 0).view other) := by
  rw [schedule_zero, evaluateUnseen, view_retain, ← view_cancel_of_ne c hne]
  exact view_evaluate_later (hsound.cancel field) hne

/-- A field that asks no callback is caught up once it has been evaluated without
delay. -/
theorem caughtUp_schedule_self (hsound : c.Sound) (hfine : ¬ c.engine.Fails)
    (hfind : c.fields.find? field = some state) (himmediate : state.Immediate) :
    (c.schedule field 0).CaughtUp field := by
  have huptodate : ((c.cancel field).evaluate field).1.UpToDate field :=
    upToDate_evaluate (hsound.cancel field) hfine hfind himmediate
  rw [schedule_zero]
  refine ⟨?_, huptodate.of_view ?_ (values_retain _ _) (engine_retain _ _)⟩
  · rw [evaluateUnseen, clock_retain]
    exact isPending_again_self c field
  · rw [evaluateUnseen, view_retain]

theorem CaughtUp.schedule_of_ne (hcaught : c.CaughtUp field) (hsound : c.Sound)
    (hne : other ≠ field) : (c.schedule other 0).CaughtUp field := by
  obtain ⟨issued, -, hview⟩ := view_schedule_zero_of_ne hsound hne
  refine ⟨(congrArg View.waiting hview).trans hcaught.ended, hcaught.upToDate.of_view ?_
    (values_schedule hsound other 0) (evolves_schedule_zero hsound other).engine⟩
  rw [hview]

/-! ## Fields that depend on one that has changed -/

/-- After the evaluation of some fields without delay, those of them that ask no
callback are caught up. -/
theorem caughtUp_foldl_schedule (fields : List String) :
    ∀ {c : Context} {state : FieldState}, c.Sound → ¬ c.engine.Fails →
      c.fields.find? field = some state → state.Immediate → (field ∈ fields ∨ c.CaughtUp field) →
      (fields.foldl (fun c field => c.schedule field 0) c).CaughtUp field := by
  induction fields with
  | nil => exact fun _ _ _ _ h => h.resolve_left List.not_mem_nil
  | cons head rest ih =>
    intro c state hsound hfine hfind himmediate h
    have hevolves := evolves_schedule_zero hsound head
    obtain ⟨after, hafter, hsetup⟩ :=
      exists_state_of_basis (basis_schedule hsound head 0 field) hfind
    refine ih (hevolves.sound hsound) (by rwa [hevolves.engine]) hafter
      ((FieldState.Immediate.congr hsetup).2 himmediate) ?_
    by_cases hhead : head = field
    · subst hhead
      exact .inr (caughtUp_schedule_self hsound hfine hfind himmediate)
    · rw [List.mem_cons, or_iff_right (Ne.symm hhead)] at h
      exact h.imp_right fun hcaught => hcaught.schedule_of_ne hsound hhead

theorem Sound.withChange (hsound : c.Sound) (hfind : c.fields.find? state.name = some state)
    (value : Option String) : (c.withChange state value).Sound where
  regular := hsound.regular.withChange state value
  intact other := by
    by_cases hother : state.name = other
    · subst hother
      rw [view_withChange_self rfl]
      exact .of_present rfl { hsound.present hfind with }
    · rw [view_withChange_of_ne hother]
      exact hsound.intact other

/-- A change of a value leaves the setup of all fields alone. -/
theorem Sound.exists_state_rescheduled (hsound : c.Sound) {changing : FieldState}
    (hchanging : c.fields.find? changing.name = some changing) (value : Option String)
    (hfind : c.fields.find? field = some state) :
    ∃ after, (c.rescheduled changing value).fields.find? field = some after ∧
      after.setup = state.setup := by
  obtain ⟨before, hbefore, hsetup⟩ : ∃ before,
      (c.withChange changing value).fields.find? field = some before ∧
        before.setup = state.setup := by
    by_cases hfield : changing.name = field
    · subst hfield
      cases hchanging.symm.trans hfind
      exact ⟨state.changed, congrArg View.state (view_withChange_self rfl value), rfl⟩
    · exact ⟨state, (congrArg View.state (view_withChange_of_ne hfield value)).trans hfind, rfl⟩
  unfold rescheduled
  split
  · exact ⟨before, hbefore, hsetup⟩
  · obtain ⟨after, hafter, hsame⟩ := exists_state_of_basis
      (basis_schedule (hsound.withChange hchanging value) _ _ field) hbefore
    exact ⟨after, hafter, hsame.trans hsetup⟩

theorem Sound.values_rescheduled (hsound : c.Sound) {changing : FieldState}
    (hchanging : c.fields.find? changing.name = some changing) (value : Option String) :
    (c.rescheduled changing value).values = c.values.set changing.name value := by
  unfold rescheduled
  split
  · rfl
  · exact values_schedule (hsound.withChange hchanging value) _ _

theorem values_foldl_schedule (fields : List String) :
    ∀ {c : Context}, c.Sound →
      (fields.foldl (fun c field => c.schedule field 0) c).values = c.values := by
  induction fields with
  | nil => exact fun _ => rfl
  | cons head rest ih =>
    intro c hsound
    exact (ih ((evolves_schedule_zero hsound head).sound hsound)).trans
      (values_schedule hsound head 0)

/-- A change of the value of a field has succeeded, and another field has followed
it at once. -/
structure FollowedBy (c : Context) (source field : String) (value : Option String)
    (changed : Context × Except ConfigError Unit) : Prop where
  ok : changed.2 = .ok ()
  values : changed.1.values = c.values.set source value
  caughtUp : changed.1.CaughtUp field

theorem followedBy_change (hreach : c.Reachable)
    (henglish : c.translator = Message.english.translator) (hsource : c.isRegistered source = true)
    (hfind : c.fields.find? field = some state) (hcompares : state.ComparesWith source)
    (himmediate : state.Immediate) (value : Option String) :
    c.FollowedBy source field value (c.change source value) := by
  have hsound := hreach.sound
  obtain ⟨changing, hchanging⟩ := Option.isSome_iff_exists.1 hsource
  obtain rfl := (hsound.present hchanging).name
  have hfirst := evolves_rescheduled hsound hchanging value
  have hdependent : field ∈ c.dependencies.dependentsOf changing.name := by
    rw [Dependencies.mem_dependentsOf, hreach.wired.mem_pairs_iff]
    exact ⟨state, hfind, hcompares⟩
  obtain ⟨after, hafter, hsetup⟩ := hsound.exists_state_rescheduled hchanging value hfind
  rw [change_eq hchanging rfl]
  refine ⟨rfl, ?_, ?_⟩
  · exact (values_foldl_schedule _ (hfirst.sound hsound)).trans
      (hsound.values_rescheduled hchanging value)
  · refine caughtUp_foldl_schedule _ (hfirst.sound hsound) ?_ hafter
      ((FieldState.Immediate.congr hsetup).2 himmediate) (.inl hdependent)
    rw [hfirst.engine]
    exact Engine.not_fails_of_english henglish

/-- When a registered field gets a value or loses it, every field whose rules
compare it with this one, and which asks no callback, follows at once. -/
theorem followed_by_dependents (hreach : c.Reachable)
    (henglish : c.translator = Message.english.translator) (hsource : c.isRegistered source = true)
    (hfind : c.fields.find? field = some state) (hcompares : state.ComparesWith source)
    (himmediate : state.Immediate) :
    (∀ value, c.FollowedBy source field (some value) (c.setValue source value)) ∧
      c.FollowedBy source field none (c.clearValue source) :=
  have hfollowed := followedBy_change hreach henglish hsource hfind hcompares himmediate
  ⟨fun value => hfollowed (some value), hfollowed none⟩

/-- A field waits for its evaluation, and is compared with another one that
changes in the meantime. -/
def waitingCopy : Context :=
  (start Message.english.translator { debounce := 100 } []).run
    [.register { name := "word", rules := "required" },
      .register { name := "copy", rules := "required|match:word" }, .setValue "copy" "owl"]

/-- The field waits and has been found invalid.  It is valid as soon as the other
one has its value. -/
theorem followed_by_waitingCopy :
    waitingCopy.clock.isPending "copy" = true ∧ waitingCopy.isValid "copy" = false ∧
      waitingCopy.FollowedBy "word" "copy" (some "owl") (waitingCopy.setValue "word" "owl") ∧
      (waitingCopy.setValue "word" "owl").1.isValid "copy" = true := by
  have hstate : ∀ state ∈ waitingCopy.fields.find? "copy",
      state.ComparesWith "word" ∧ state.Immediate := by
    decide +kernel
  obtain ⟨state, hfind⟩ := Option.isSome_iff_exists.1
    (show (waitingCopy.fields.find? "copy").isSome = true by decide +kernel)
  have hreach : waitingCopy.Reachable := (Reachable.start _ _ _).run _
  obtain ⟨hcompares, himmediate⟩ := hstate state hfind
  exact ⟨by decide +kernel, by decide +kernel,
    (followed_by_dependents hreach rfl (by decide +kernel) hfind hcompares himmediate).1 "owl",
    by decide +kernel⟩

end Context

end FieldRules
