import FieldRules.Proofs.DependencyEdges
import FieldRules.Proofs.Lives

/-!
# What operations do with a life

An operation on a field is an operation on the life of the field: what becomes of the
life can be told without anything else that the context knows.

* `Operation.About`: the operations on a field, and those on no field at all.
* `Life.perform`: these operations on a life.
* `Context.life_vacated`: nothing is left of the lives that a name had before.
* `Context.life_perform`: the operations of a context as operations on a life.
-/

namespace FieldRules

/-- The operation is about the field and no other one, or about no field. -/
def Operation.About (field : String) : Operation → Prop
  | register registration => registration.name = field
  | unregister other | setRules other _ | setValue other _ | clearValue other
  | setDisabled other _ | validate other => other = field
  | checkForm _ | resetForm _ _ => False
  | advance _ | setCallback _ _ | removeCallback _ | takeErrors => True

instance (field : String) : DecidablePred (Operation.About field)
  | .register registration => inferInstanceAs (Decidable (registration.name = field))
  | .unregister other | .setRules other _ | .setValue other _ | .clearValue other
  | .setDisabled other _ | .validate other => inferInstanceAs (Decidable (other = field))
  | .checkForm _ | .resetForm _ _ => inferInstanceAs (Decidable False)
  | .advance _ | .setCallback _ _ | .removeCallback _ | .takeErrors =>
    inferInstanceAs (Decidable True)

/-! ## Operations on a life -/

namespace Life

/-- The life in which the field has a value, or none. -/
def withValue (life : Life) (value : Option String) : Life :=
  { life with values := fun name => if name = life.name then value else life.values name }

/-- The life of a name that no field has. -/
def vacant (life : Life) : Life :=
  { life.withValue none with state := none, entry := none, edges := [], timers := [], ready := [] }

/-- The rules, compiled with the callbacks that are there. -/
def compile (life : Life) (rules : String) : Except ConfigError Rule.Compiled := do
  let compiled ← Rule.compile rules
  match compiled.callbacks.find? fun (_, callback) => !(life.callbacks callback).isSome with
  | some (rule, callback) => throw (.missingCallback rule callback)
  | none => return compiled

/-- The life of a field that has been added and not been evaluated yet. -/
def enrolled (life : Life) (registration : Registration) (compiled : Rule.Compiled) : Life :=
  let state := registration.state compiled life.config
  { (life.withValue registration.value).depend state.targets with state := some state }

/-- The life of a field that is registered, whatever life it had before. -/
def registered (life : Life) (registration : Registration) : Life :=
  if registration.name.isEmpty then life
  else
    match life.compile registration.rules with
    | .error _ => life
    | .ok compiled => (life.vacant.enrolled registration compiled).evaluated

/-- The life of a field that is no longer validated. -/
def suspended (life : Life) (state : FieldState) : Life :=
  { life with state := some state.suspended, entry := none, timers := [], ready := [] }

/-- The life with other dependencies of the field. -/
def redepend (life : Life) (targets : List Target) : Life :=
  { life with edges := [] }.depend targets

/-- The life of a field that gets other rules. -/
def ruled (life : Life) (rules : String) : Life :=
  match life.compile rules with
  | .error _ => life
  | .ok compiled =>
    match life.state with
    | none => life
    | some state =>
      let life := life.redepend (state.withRules rules compiled).targets
      if compiled.validators.isEmpty then life.suspended (state.withRules rules compiled)
      else { life with state := some (state.ruled rules compiled) }.evaluated

/-- The life of a field that is evaluated after a delay. -/
def scheduled (life : Life) (delay : Nat) : Life :=
  if delay = 0 then life.again
  else
    { life.cancelled with
      timers := Clock.insertTimer ⟨delay, some life.name, .evaluate life.name⟩
        life.cancelled.timers }

/-- How often the field is compared with itself. -/
def selfEdges (life : Life) : Nat :=
  (life.edges.filter (·.source = life.name)).length

/-- The life of a field whose value changes. -/
def changed (life : Life) (value : Option String) : Life :=
  match life.state with
  | none => life
  | some state =>
    let edited := { life.withValue value with state := some state.changed }
    again^[life.selfEdges]
      (if state.status = .cancelled then edited else edited.scheduled state.debounce)

/-- The life of a field that is evaluated now and shows the result from now on. -/
def validated (life : Life) : Life :=
  match life.state with
  | none => life
  | some state => { life with state := some { state with touched := true } }.again

/-- The life of a field that is disabled, or enabled. -/
def switched (life : Life) (disabled : Bool) : Life :=
  match life.state with
  | none => life
  | some state =>
    if disabled then life.suspended { state with disabled }
    else { life with state := some state.enabled }.evaluated

/-- The life in which there is a callback of this name, or none. -/
def withCallback (life : Life) (name : String) (callback : Option Callback) : Life :=
  { life with callbacks := fun other => if other = name then callback else life.callbacks other }

/-- The life after an operation on its field, or on no field; the clock is left alone. -/
def perform (life : Life) : Operation → Life
  | .register registration => life.registered registration
  | .unregister _ => life.vacant
  | .setRules _ rules => life.ruled rules
  | .setValue _ value => life.changed (some value)
  | .clearValue _ => life.changed none
  | .setDisabled _ disabled => life.switched disabled
  | .validate _ => life.validated
  | .setCallback name callback => life.withCallback name (some callback)
  | .removeCallback name => life.withCallback name none
  | .checkForm _ | .resetForm _ _ | .advance _ | .takeErrors => life

end Life

namespace Context

variable {c c' d : Context} {field other : String} {state : FieldState}

/-! ## Evaluations after a delay -/

/-- A timer that matters to the field is set. -/
theorem life_set (hsorted : c.clock.Sorted) (key : Option String) (delay : Nat) {event : Event}
    (hawaits : c.awaits field event = true) :
    ({ c with clock := c.clock.set key delay event } : Context).life field =
      { c.life field with
        timers := Clock.insertTimer ⟨delay, key, event.unnumbered⟩ (c.life field).timers } := by
  have hseen : seen c.clock.now ⟨c.clock.now + delay, key, event⟩ =
      ⟨delay, key, event.unnumbered⟩ := by
    rw [seen, Nat.add_sub_cancel_left]
  ext1
  case timers =>
    change List.map (seen c.clock.now) (List.filter (fun timer => c.awaits field timer.event)
      (Clock.insertTimer _ c.clock.timers)) = Clock.insertTimer _ (List.map _ _)
    rw [Clock.filter_insertTimer hsorted hawaits, Clock.map_insertTimer, hseen]
    intro head _
    dsimp only [seen]
    omega
  all_goals rfl

theorem life_set_of_not (key : Option String) (delay : Nat) {event : Event}
    (hnot : c.awaits field event = false) :
    ({ c with clock := c.clock.set key delay event } : Context).life field = c.life field := by
  have hfilter : (Clock.insertTimer ⟨c.clock.now + delay, key, event⟩ c.clock.timers).filter
      (fun timer => c.awaits field timer.event) =
        c.clock.timers.filter fun timer => c.awaits field timer.event :=
    Clock.filter_insertTimer_of_not hnot _
  ext1
  case timers => exact congrArg (List.map (seen c.clock.now)) hfilter
  all_goals rfl

theorem life_again (hfind : c.fields.find? field = some state) (hname : state.name = field)
    (hfield : field ≠ "") (htimely : c.Timely) :
    ((c.cancel field).evaluate field).1.life field = (c.life field).again := by
  rw [life_evaluate (c := c.cancel field) hfind hname hfield (htimely.cancel field),
    life_cancel htimely.sound]
  rfl

theorem life_schedule (hfind : c.fields.find? field = some state) (hname : state.name = field)
    (hfield : field ≠ "") (htimely : c.Timely) (delay : Nat) :
    (c.schedule field delay).life field = (c.life field).scheduled delay := by
  unfold Life.scheduled
  by_cases hdelay : delay = 0
  · subst hdelay
    rw [if_pos rfl, schedule_zero, evaluateUnseen]
    exact (life_retain _).trans (life_again hfind hname hfield htimely)
  · have hawaits : (c.cancel field).awaits field (.evaluate field) = true := decide_eq_true rfl
    have hset := life_set (htimely.sorted.cancel field) (some field) delay hawaits
    rw [if_neg hdelay, schedule_succ c field hdelay]
    rw [life_cancel htimely.sound] at hset
    exact hset

/-! ## Fields that follow -/

theorem orderly_schedule_zero (horderly : c.Orderly) (other : String) :
    (c.schedule other 0).Orderly :=
  horderly.changes (changes_schedule horderly (List.mem_singleton_self other) 0)

theorem timely_schedule_zero (horderly : c.Orderly) (htimely : c.Timely) (other : String) :
    (c.schedule other 0).Timely := by
  rw [schedule_zero]
  exact ((htimely.cancel other).evaluate ⟨horderly.named, horderly.clock.cancel other⟩ other).retain _

/-- Another field that is evaluated leaves the life as it is. -/
theorem life_schedule_zero_of_ne (horderly : c.Orderly) (hne : other ≠ field) :
    (c.schedule other 0).life field = c.life field := by
  have huntouched := (changes_schedule horderly (List.mem_singleton_self other) 0).untouched horderly
  refine life_of_untouched huntouched (by simpa using Ne.symm hne) ?_
  rw [schedule_zero, evaluateUnseen]
  exact (surroundings_retain _).trans
    (surroundings_evaluate (c := c.cancel other) ⟨horderly.named, horderly.clock.cancel other⟩ other)

theorem state_again {life : Life} (hstate : life.state.isSome = true) :
    life.again.state.isSome = true := by
  obtain ⟨state, hstate⟩ := Option.isSome_iff_exists.1 hstate
  have hcancelled : life.cancelled.state = some state := hstate
  rw [Life.again, Life.evaluated, hcancelled]
  rfl

/-- Among the fields that are evaluated, the field itself is the only one that matters. -/
theorem life_foldl_schedule (items : List String) :
    ∀ {c : Context}, c.Orderly → c.Timely → (c.life field).state.isSome = true →
      (items.foldl (fun c dependent => c.schedule dependent 0) c).life field =
        Life.again^[items.count field] (c.life field) := by
  induction items with
  | nil => exact fun _ _ _ => rfl
  | cons head rest ih =>
    intro c horderly htimely hstate
    have hrest := ih (orderly_schedule_zero horderly head) (timely_schedule_zero horderly htimely head)
    rw [List.foldl_cons]
    by_cases hhead : head = field
    · subst hhead
      obtain ⟨state, hfind⟩ : ∃ state, c.fields.find? head = some state := by
        simpa [life, Option.isSome_iff_exists] using hstate
      obtain ⟨hname, hfield⟩ := horderly.named head state hfind
      have hagain : (c.schedule head 0).life head = (c.life head).again :=
        life_schedule hfind hname hfield htimely 0
      rw [hrest (by rw [hagain]; exact state_again hstate), hagain, List.count_cons_self,
        Function.iterate_succ_apply]
    · have hlife := life_schedule_zero_of_ne horderly hhead
      rw [hrest (by rw [hlife]; exact hstate), hlife, List.count_cons_of_ne hhead]

theorem count_dependentsOf (c : Context) (field : String) :
    (c.dependencies.dependentsOf field).count field = (c.life field).selfEdges := by
  unfold Dependencies.dependentsOf Life.selfEdges life
  rw [List.count, List.countP_map, List.countP_eq_length_filter, List.filter_filter,
    List.filter_filter]
  refine congrArg List.length (List.filter_congr fun edge _ => ?_)
  simp [Bool.and_comm, beq_eq_decide]

/-! ## Fields that come and go -/

/-- Of a name that no field has, a reachable context keeps nothing. -/
theorem life_of_absent (hreach : c.Reachable) (hfind : c.fields.find? field = none) :
    c.life field = (c.life field).vacant := by
  have habsent := hreach.sound.absent hfind
  have hvalue : c.values.find? field = none := habsent.value
  have hcurrent : c.generations.current? field = none := habsent.current
  have hwaiting : c.clock.isPending field = false := habsent.waiting
  have hunwanted : ∀ inquiry ∈ c.ready ++ c.clock.inquiries, c.wants field inquiry = false := by
    intro inquiry _
    simp [wants, Generations.isCurrent, hcurrent]
  obtain ⟨htimers, hready⟩ := life_of_unwanted hreach.timely.sound hwaiting hunwanted
  ext1
  case values =>
    funext name
    change c.values.find? name = if name = field then none else c.values.find? name
    split
    · rename_i hname
      rw [hname, hvalue]
    · rfl
  case state =>
    rw [life, hfind]
    rfl
  case entry => exact habsent.entry
  case edges =>
    change c.dependencies.edges.filter _ = []
    rw [List.filter_eq_nil_iff]
    intro edge hmem
    rw [decide_eq_true_iff]
    intro hdependent
    have hpair : (field, edge.source) ∈ c.dependencies.pairs :=
      List.mem_map.2 ⟨edge, hmem, by rw [Dependency.pair, hdependent]⟩
    obtain ⟨state, hstate, -⟩ := (hreach.wired.mem_pairs_iff field edge.source).1 hpair
    rw [hfind] at hstate
    cases hstate
  case timers => exact htimers
  case ready => exact hready
  all_goals rfl

theorem Reachable.perform (hreach : c.Reachable) {operation : Operation}
    (hnow : ∀ ms, operation ≠ .advance ms) : (c.perform operation).1.Reachable :=
  hreach.leads (.single (.operation operation hnow))

theorem Reachable.remove (hreach : c.Reachable) (field : String) : (c.remove field).Reachable := by
  have hnow : ∀ ms, Operation.unregister field ≠ .advance ms := by simp
  exact hreach.perform hnow

theorem Reachable.register (hreach : c.Reachable) (registration : Registration) :
    (c.register registration).1.Reachable := by
  have hnow : ∀ ms, Operation.register registration ≠ .advance ms := by simp
  exact hreach.perform hnow

theorem Reachable.resetForm (hreach : c.Reachable) (form : String) (options : ResetOptions) :
    (c.resetForm form options).1.Reachable := by
  have hnow : ∀ ms, Operation.resetForm form options ≠ .advance ms := by simp
  exact hreach.perform hnow

theorem Reachable.vacated (hreach : c.Reachable) (field : String) : (c.vacated field).Reachable := by
  unfold Context.vacated
  split
  · exact hreach.remove field
  · exact hreach

/-- Whatever lives a name had, nothing of them is left when its field is gone. -/
theorem life_vacated (hreach : c.Reachable) (field : String) :
    (c.vacated field).life field = (c.life field).vacant := by
  rw [life_of_absent (hreach.vacated field) (find?_vacated c field)]
  unfold vacated
  split
  · rename_i hregistered
    obtain ⟨state, hfind⟩ : ∃ state, c.fields.find? field = some state := by
      simpa [isRegistered, Assoc.has, Option.isSome_iff_exists] using hregistered
    rw [remove_of_registered hfind, life_note]
    ext1
    case values =>
      funext name
      change (if name = field then none else Assoc.find? (c.values.set field none) name) =
        if name = field then none else c.values.find? name
      split
      · rfl
      · rename_i hname
        exact Values.find?_set_of_ne c.values none (Ne.symm hname)
    all_goals rfl
  · rfl

theorem life_remove (hreach : c.Reachable) (field : String) :
    (c.remove field).life field = (c.life field).vacant := by
  cases hfind : c.fields.find? field with
  | some state =>
    have hvacated := life_vacated hreach field
    rwa [vacated, if_pos (by simp [isRegistered, Assoc.has, hfind])] at hvacated
  | none =>
    rw [life_of_absent (hreach.remove field) (find?_remove_self c field), remove_of_unregistered hfind]
    rfl

theorem life_enroll (registration : Registration) (compiled : Rule.Compiled)
    (hvalue : c.values.find? registration.name = none) :
    (c.enroll registration compiled).life registration.name =
      (c.life registration.name).enrolled registration compiled := by
  have hplaced : (c.placed registration compiled).life registration.name =
      (c.life registration.name).depend (registration.state compiled c.config).targets :=
    life_depend (c := { c with forms := registration.place c.forms }) registration.name _
  rw [enroll_eq, life_put (by rfl)]
  cases hgiven : registration.value with
  | none =>
    dsimp only
    rw [hplaced, Life.enrolled, hgiven]
    ext1
    case values =>
      funext name
      change c.values.find? name = if name = registration.name then none else c.values.find? name
      split
      · rename_i hname
        rw [hname, hvalue]
      · rfl
    all_goals rfl
  | some value =>
    dsimp only
    rw [Life.enrolled, hgiven]
    ext1
    case values =>
      funext name
      change Assoc.find? (c.values.set registration.name (some value)) name =
        if name = registration.name then some value else c.values.find? name
      split
      · rename_i hname
        rw [hname, Values.find?_set_self]
      · rename_i hname
        exact Values.find?_set_of_ne c.values _ (Ne.symm hname)
    case edges =>
      have hedges := congrArg Life.edges hplaced
      exact hedges
    all_goals rfl

theorem find?_fields_enroll (c : Context) (registration : Registration)
    (compiled : Rule.Compiled) :
    (c.enroll registration compiled).fields.find? registration.name =
      some (registration.state compiled c.config) := by
  rw [enroll_eq]
  exact Assoc.find?_put_self _ _ _

theorem Timely.enroll (htimely : c.Timely) (registration : Registration)
    (compiled : Rule.Compiled) : (c.enroll registration compiled).Timely := by
  rw [enroll_eq]
  cases registration.value <;> exact htimely

theorem life_register (hreach : c.Reachable) (registration : Registration) :
    (c.register registration).1.life registration.name =
      (c.life registration.name).registered registration := by
  unfold Life.registered
  have hcompile : (c.life registration.name).compile registration.rules =
      c.compile registration.rules := rfl
  rw [hcompile]
  rcases c.register_cases registration with ⟨e, hrefused, hreason⟩ | ⟨compiled, hname, hok, haccepted⟩
  · rw [hrefused]
    rcases hreason with hempty | herror
    · rw [if_pos (by simp [hempty])]
    · rw [herror]
      split <;> rfl
  · have hvacated := hreach.vacated registration.name
    have hempty := hvacated.sound.absent (find?_vacated c registration.name)
    have hvalue : (c.vacated registration.name).values.find? registration.name = none := hempty.value
    have hfind := find?_fields_enroll (c.vacated registration.name) registration compiled
    rw [haccepted, hok, if_neg (by simpa using hname),
      life_evaluate hfind rfl hname (hvacated.timely.enroll registration compiled),
      life_enroll registration compiled hvalue, life_vacated hreach]

/-! ## Rules -/

theorem life_redepend (hname : state.name = field) :
    (c.redepend state).life field = (c.life field).redepend state.targets := by
  subst hname
  have hremoved : ({ c with dependencies := (c.dependencies.removeDependent state.name).1 } :
      Context).life state.name = { c.life state.name with edges := [] } := by
    ext1
    case edges =>
      change List.filter _ (c.dependencies.edges.filter _) = []
      rw [List.filter_filter, List.filter_eq_nil_iff]
      intro edge _
      simp
    all_goals rfl
  rw [redepend, life_depend, hremoved]
  rfl

theorem life_suspend (htimely : c.Timely) (hname : state.name = field) :
    (c.suspend state).life field = (c.life field).suspended state.unnumbered := by
  subst hname
  rw [suspend, life_dismiss, life_put (by rfl), life_invalidate (htimely.cancel state.name),
    life_cancel htimely.sound]
  ext1
  case timers =>
    change List.filter _ (List.filter _ _) = []
    rw [List.filter_filter, List.filter_eq_nil_iff]
    intro timer _
    cases timer.key <;> simp
  all_goals rfl

theorem life_setRules (horderly : c.Orderly) (htimely : c.Timely) (field rules : String) :
    (c.setRules field rules).1.life field = (c.life field).ruled rules := by
  have hcompile : (c.life field).compile rules = c.compile rules := rfl
  unfold setRules Life.ruled
  rw [hcompile]
  cases c.compile rules with
  | error e => rfl
  | ok compiled =>
    dsimp only
    cases hfind : c.fields.find? field with
    | none =>
      rw [show (c.life field).state = none by rw [life, hfind]; rfl]
    | some state =>
      obtain ⟨hname, hfield⟩ := horderly.named field state hfind
      rw [state_life hfind]
      dsimp only
      split
      · rw [life_suspend (by exact htimely) (by exact hname), life_redepend (by exact hname)]
        rfl
      · have hruled : (state.ruled rules compiled).name = field := hname
        have hfind' : (((c.note (.ruled field)).redepend (state.withRules rules compiled)).put
            (state.ruled rules compiled)).fields.find? field = some (state.ruled rules compiled) := by
          rw [← hruled]
          exact Assoc.find?_put_self _ _ _
        rw [life_evaluate hfind' hruled hfield (by exact htimely), life_put hruled,
          life_redepend (by exact hname)]
        rfl

/-! ## Values -/

theorem find?_withChange (hname : state.name = field) (value : Option String) :
    (c.withChange state value).fields.find? field = some state.changed := by
  subst hname
  exact Assoc.find?_put_self _ _ _

theorem life_withChange (hname : state.name = field) (value : Option String) :
    (c.withChange state value).life field =
      { (c.life field).withValue value with state := some state.unnumbered.changed } := by
  subst hname
  ext1
  case values =>
    funext name
    change Assoc.find? (c.values.set state.name value) name =
      if name = state.name then value else c.values.find? name
    split
    · rename_i hname
      rw [hname, Values.find?_set_self]
    · rename_i hname
      exact Values.find?_set_of_ne c.values _ (Ne.symm hname)
  case state => exact state_life (find?_withChange rfl value)
  all_goals rfl

theorem state_scheduled {life : Life} (hstate : life.state.isSome = true) (delay : Nat) :
    (life.scheduled delay).state.isSome = true := by
  unfold Life.scheduled
  split
  · exact state_again hstate
  · exact hstate

theorem life_change (hsound : c.Sound) (htimely : c.Timely) (field : String)
    (value : Option String) : (c.change field value).1.life field = (c.life field).changed value := by
  unfold Life.changed
  cases hfind : c.fields.find? field with
  | none =>
    rw [show (c.life field).state = none by rw [life, hfind]; rfl]
    unfold change
    rw [hfind]
  | some state =>
    obtain ⟨hname, hfield⟩ := hsound.orderly.named field state hfind
    have hchanged : state.changed.name = field := hname
    have hfind' := find?_withChange (c := c) hname value
    have horderly : (c.withChange state value).Orderly :=
      hsound.orderly.changes
        (changes_withChange (List.mem_singleton_self state.name) (hname ▸ hfield) value)
    have hlife := life_withChange (c := c) hname value
    have hone : field ∈ [field] := List.mem_singleton_self field
    rw [change_eq hfind hname, state_life hfind, ← count_dependentsOf]
    dsimp only
    have hcancelled : (state.unnumbered.status = .cancelled) = (state.status = .cancelled) := rfl
    have hdebounce : state.unnumbered.debounce = state.debounce := rfl
    rw [hdebounce, ← hlife]
    unfold rescheduled
    simp only [hcancelled]
    split
    · refine life_foldl_schedule _ horderly (by exact htimely) ?_
      rw [hlife]
      rfl
    · have hdelayed := life_schedule hfind' hchanged hfield (by exact htimely) state.debounce
      have hchanges := changes_schedule horderly hone state.debounce
      rw [hname, life_foldl_schedule _ (horderly.changes hchanges), hdelayed]
      · by_cases hdelay : state.debounce = 0
        · rw [hdelay]
          exact timely_schedule_zero horderly (by exact htimely) field
        · rw [schedule_succ _ _ hdelay]
          refine ⟨htimely.sound.set_evaluate field _, (htimely.sorted.cancel field).set _ _ _, ?_⟩
          intro inquiry hmem
          have hperm := underWay_schedule_perm (c.withChange state value) field hdelay
          rw [schedule_succ _ _ hdelay] at hperm
          exact htimely.numbered inquiry (hperm.mem_iff.1 hmem)
      · rw [hdelayed, hlife]
        exact state_scheduled rfl _

/-! ## Single fields -/

theorem life_validate (horderly : c.Orderly) (htimely : c.Timely) (field : String) :
    (c.validate field).1.life field = (c.life field).validated := by
  unfold Life.validated
  cases hfind : c.fields.find? field with
  | none =>
    rw [show (c.life field).state = none by rw [life, hfind]; rfl]
    unfold validate
    rw [hfind]
  | some state =>
    obtain ⟨hname, hfield⟩ := horderly.named field state hfind
    have htouched : ({ state with touched := true } : FieldState).name = field := hname
    have hfind' : (c.put { state with touched := true }).fields.find? field =
        some { state with touched := true } := by
      rw [← htouched]
      exact Assoc.find?_put_self _ _ _
    have hagain := life_again hfind' htouched hfield (by exact htimely)
    rw [life_put htouched] at hagain
    have hleft : (c.validate field).1 =
        (((c.put { state with touched := true }).cancel field).evaluate field).1 := by
      unfold validate
      rw [hfind]
      dsimp only
      generalize ((c.put { state with touched := true }).cancel field).evaluate field = evaluated
      obtain ⟨d, _ | _⟩ := evaluated
      · rfl
      · dsimp only
        split <;> rfl
    rw [hleft, hagain, state_life hfind]
    rfl

theorem life_setDisabled (horderly : c.Orderly) (htimely : c.Timely) (field : String)
    (disabled : Bool) :
    (c.setDisabled field disabled).1.life field = (c.life field).switched disabled := by
  unfold setDisabled Life.switched
  cases hfind : c.fields.find? field with
  | none => rw [show (c.life field).state = none by rw [life, hfind]; rfl]
  | some state =>
    obtain ⟨hname, hfield⟩ := horderly.named field state hfind
    rw [state_life hfind]
    dsimp only
    split
    · rw [life_suspend (by exact htimely) (by exact hname), life_note]
      rfl
    · have henabled : state.enabled.name = field := hname
      have hfind' : (c.put state.enabled).fields.find? field = some state.enabled := by
        rw [← henabled]
        exact Assoc.find?_put_self _ _ _
      rw [life_evaluate hfind' henabled hfield (by exact htimely), life_put henabled]
      rfl

/-! ## Callbacks -/

theorem life_setCallback (name : String) (callback : Callback) :
    ({ c with callbacks := c.callbacks.put name callback } : Context).life field =
      (c.life field).withCallback name (some callback) := by
  ext1
  case callbacks =>
    funext other
    change Assoc.find? (c.callbacks.put name callback) other =
      if other = name then some callback else Assoc.find? c.callbacks other
    split
    · next hother => rw [hother, Assoc.find?_put_self]
    · next hother => exact Assoc.find?_put_of_ne _ _ (Ne.symm hother)
  all_goals rfl

theorem life_removeCallback (name : String) :
    ({ c with callbacks := c.callbacks.drop name } : Context).life field =
      (c.life field).withCallback name none := by
  ext1
  case callbacks =>
    funext other
    change Assoc.find? (c.callbacks.drop name) other =
      if other = name then none else Assoc.find? c.callbacks other
    split
    · next hother => rw [hother, Assoc.find?_drop_self]
    · next hother => exact Assoc.find?_drop_of_ne _ (Ne.symm hother)
  all_goals rfl

/-! ## All operations -/

/-- What a context does with a field is what is done with its life. -/
theorem life_perform (hreach : c.Reachable) {operation : Operation}
    (habout : operation.About field) (hnow : ∀ ms, operation ≠ .advance ms) :
    (c.perform operation).1.life field = (c.life field).perform operation := by
  have hsound := hreach.sound
  have htimely := hreach.timely
  cases operation with
  | register registration =>
    obtain rfl : registration.name = field := habout
    exact life_register hreach registration
  | unregister other =>
    obtain rfl : other = field := habout
    exact life_remove hreach other
  | setRules other rules =>
    obtain rfl : other = field := habout
    exact life_setRules hsound.orderly htimely other rules
  | setValue other value =>
    obtain rfl : other = field := habout
    exact life_change hsound htimely other (some value)
  | clearValue other =>
    obtain rfl : other = field := habout
    exact life_change hsound htimely other none
  | setDisabled other disabled =>
    obtain rfl : other = field := habout
    exact life_setDisabled hsound.orderly htimely other disabled
  | validate other =>
    obtain rfl : other = field := habout
    exact life_validate hsound.orderly htimely other
  | advance ms => exact absurd rfl (hnow ms)
  | checkForm form => exact habout.elim
  | resetForm form options => exact habout.elim
  | setCallback name callback => exact life_setCallback name callback
  | removeCallback name => exact life_removeCallback name
  | takeErrors => rfl

end Context

end FieldRules
