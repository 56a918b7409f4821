import FieldRules.Proofs.DependencyOperators
import FieldRules.Proofs.NewLives
import FieldRules.Proofs.RenewedLives

/-!
# Registrations that repeat a field

A field can be registered again with the rules and settings that it has, and without a
value.  This makes it look new and evaluates it, so what had become of it does not matter:
only its setup does, and the values.

* `Registration.Repeats`: a registration with the rules and settings of a field.
* `FieldState.state_of_repeats`: the state of a field that is registered is a state that
  looks new.
* `Life.ground`, `Life.edgeless`: what evaluations and replies leave alone, and what does not
  depend on the dependencies of the field.
* `Life.registered_of_repeats`: to register a field without a value renews its life, and all
  of its dependencies are looked at again.
-/

namespace FieldRules

variable {registration : Registration} {compiled : Rule.Compiled} {config : EngineConfig}

/-! ## Registrations that repeat a field -/

/-- The registration has the name, the rules, the form and the settings of the field, and
no value. -/
structure Registration.Repeats (registration : Registration) (state : FieldState)
    (config : EngineConfig) : Prop where
  name : registration.name = state.name
  rules : registration.rules = state.rules
  form : registration.form = state.form
  value : registration.value = none
  validateOnEmpty :
    registration.options.validateOnEmpty.getD config.validateOnEmpty = state.validateOnEmpty
  debounce : registration.options.effectiveDebounce config = state.debounce
  requirement : registration.options.requirement.getD config.requirement = state.requirement
  friendlyName : registration.options.friendlyName = state.friendlyName
  errorTarget : registration.options.errorTarget = state.errorTarget

instance (registration : Registration) (state : FieldState) (config : EngineConfig) :
    Decidable (registration.Repeats state config) :=
  decidable_of_iff
    ((registration.name = state.name ∧ registration.rules = state.rules ∧
        registration.form = state.form ∧ registration.value = none) ∧
      (registration.options.validateOnEmpty.getD config.validateOnEmpty = state.validateOnEmpty ∧
        registration.options.effectiveDebounce config = state.debounce ∧
        registration.options.requirement.getD config.requirement = state.requirement) ∧
      registration.options.friendlyName = state.friendlyName ∧
      registration.options.errorTarget = state.errorTarget)
    (by
      constructor
      · rintro ⟨⟨hname, hrules, hform, hvalue⟩, ⟨honEmpty, hdebounce, hrequirement⟩, hfriendly,
          htarget⟩
        exact ⟨hname, hrules, hform, hvalue, honEmpty, hdebounce, hrequirement, hfriendly, htarget⟩
      · intro h
        exact ⟨⟨h.name, h.rules, h.form, h.value⟩,
          ⟨h.validateOnEmpty, h.debounce, h.requirement⟩, h.friendlyName, h.errorTarget⟩)

namespace FieldState

variable {state : FieldState}

/-- Every field can be registered with its own rules and settings. -/
theorem exists_repeats (state : FieldState) (config : EngineConfig) :
    ∃ registration : Registration, registration.Repeats state config := by
  let options : FieldOptions :=
    { debounce := some state.debounce
      validateOnEmpty := some state.validateOnEmpty
      requirement := some state.requirement
      friendlyName := state.friendlyName
      errorTarget := state.errorTarget }
  refine ⟨{ name := state.name, rules := state.rules, form := state.form, options }, ?_⟩
  constructor <;> rfl

/-- A field that is registered looks new. -/
theorem state_of_repeats (hrepeats : registration.Repeats state config)
    (henabled : state.disabled = false) (hcancelled : state.status = .cancelled ↔ state.Idle)
    (hvalidators : compiled.validators = state.validators)
    (hrequired : compiled.required = state.required) :
    registration.state compiled config =
      { state.renewed config.preValidate with lastValue := none } := by
  have hstatus : (if compiled.validators.isEmpty then Status.cancelled else .untouched) =
      if state.status = .cancelled then .cancelled else .untouched := by
    have hidle : state.Idle ↔ compiled.validators = [] := by
      rw [hvalidators]
      exact or_iff_right (by simp [henabled])
    simp only [hcancelled, hidle, List.isEmpty_iff]
  unfold Registration.state fresh renewed markValid
  dsimp only
  rw [hstatus, hrepeats.name, hrepeats.rules, hrepeats.form, hrepeats.validateOnEmpty,
    hrepeats.debounce, hrepeats.requirement, hrepeats.friendlyName, hrepeats.errorTarget,
    hvalidators, hrequired, henabled]

/-- What a field has been evaluated for before does not matter to its next evaluation. -/
theorem evaluated_of_lastValue (state : FieldState) (last value : Option String)
    (generation : Nat) (result : Except ConfigError Evaluation) :
    ({ state with lastValue := last } : FieldState).evaluated value generation result =
      state.evaluated value generation result := by
  cases result <;> rfl

/-- Fields of one setup look alike when they look new. -/
theorem renewed_of_setup {other : FieldState} (hsetup : other.setup = state.setup)
    (hcancelled : other.status = .cancelled ↔ state.status = .cancelled) (touched : Bool) :
    other.renewed touched = { state.renewed touched with lastValue := other.lastValue } := by
  have hrenewed : ∀ state : FieldState, state.renewed touched =
      { state.setup with
        lastValue := state.lastValue
        status := if state.status = .cancelled then .cancelled else .untouched
        touched } := fun _ => rfl
  rw [hrenewed, hrenewed, hsetup]
  simp only [hcancelled]

end FieldState

/-- Only the setup of a field matters. -/
theorem Registration.Repeats.of_setup {state other : FieldState}
    (hrepeats : registration.Repeats state config) (hsetup : other.setup = state.setup) :
    registration.Repeats other config := by
  have hread : ∀ state : FieldState,
      registration.Repeats state.setup config ↔ registration.Repeats state config := fun _ =>
    ⟨fun h => { h with }, fun h => { h with }⟩
  rwa [← hread, hsetup, hread]

/-! ## Registering a field that looks new -/

namespace Life

variable {life other : Life} {state old : FieldState}

/-- The life but for the dependencies of the field. -/
def edgeless (life : Life) : Life :=
  { life with edges := [] }

theorem edgeless_evaluated (life : Life) :
    life.evaluated.edgeless = life.edgeless.evaluated.edgeless := by
  have hstate : life.edgeless.state = life.state := rfl
  unfold evaluated
  rw [hstate]
  cases life.state <;> rfl

theorem edgeless_concluded (life : Life) (inquiry : Inquiry) (results : Results) :
    life.edgeless.concluded inquiry results = (life.concluded inquiry results).edgeless := by
  have hstate : life.edgeless.state = life.state := rfl
  unfold concluded
  rw [hstate]
  cases life.state <;> rfl

theorem edgeless_asked (life : Life) (inquiry : Inquiry) :
    life.edgeless.asked inquiry = (life.asked inquiry).edgeless := by
  have hask : life.edgeless.ask = life.ask := rfl
  unfold asked
  rw [hask]
  dsimp only
  rw [edgeless_concluded, apply_ite edgeless]
  rfl

/-- The callbacks do not ask for dependencies. -/
theorem edgeless_settled (life : Life) : life.edgeless.settled = life.settled.edgeless := by
  have hfold : life.ready.foldl asked (edgeless { life with ready := [] }) =
      (life.ready.foldl asked { life with ready := [] }).edgeless :=
    List.foldl_hom edgeless edgeless_asked
  exact hfold

/-- Evaluations overwrite what the field has been evaluated for, and do not ask for
callbacks. -/
theorem evaluated_of_lastValue (hstate : life.state = some state) (last : Option String)
    (hother : other.edgeless =
      { life.edgeless with
        callbacks := other.callbacks, state := some { state with lastValue := last } }) :
    other.evaluated.edgeless = { life.evaluated.edgeless with callbacks := other.callbacks } := by
  have hsame : other.edgeless.evaluation { state with lastValue := last } =
      life.edgeless.evaluation state := by
    rw [hother]
    exact congrFun (congrFun (FieldState.evaluate_congr rfl life.engine) life.value) _
  have hstate' : other.edgeless.state = some { state with lastValue := last } := by
    rw [hother]
  have hstate : life.edgeless.state = some state := hstate
  rw [edgeless_evaluated other, edgeless_evaluated life]
  unfold evaluated
  rw [hstate, hstate']
  dsimp only
  rw [hsame, hother]
  dsimp only
  rw [FieldState.evaluated_of_lastValue]
  cases life.edgeless.evaluation state <;> rfl

/-- What evaluations and replies leave alone: the setup of the field, and what it is told
of the rest. -/
def ground (life : Life) : Life :=
  { life with
    state := life.state.map (·.setup), entry := none, edges := [], timers := [], ready := [] }

theorem ground_evaluated (life : Life) : life.evaluated.ground = life.ground := by
  unfold evaluated
  split
  · rfl
  · next state hstate =>
    unfold ground
    rw [hstate]
    dsimp only [depend, Option.map_some]
    rw [FieldState.setup_evaluated]

theorem ground_concluded (life : Life) (inquiry : Inquiry) (results : Results) :
    (life.concluded inquiry results).ground = life.ground := by
  unfold concluded
  split
  · rfl
  · next state hstate =>
    unfold ground
    rw [hstate]
    dsimp only [Option.map_some]
    rw [FieldState.setup_concluded]

theorem ground_settled (life : Life) : life.settled.ground = life.ground := by
  refine List.foldlRecOn (motive := fun other : Life => other.ground = life.ground) _ _ rfl
    fun other hother inquiry _ => ?_
  unfold asked
  dsimp only
  split
  · rw [ground_concluded, hother]
  · exact hother

theorem ground_renewed (life : Life) : life.renewed.ground = life.ground := by
  ext1
  case state =>
    change Option.map _ (Option.map _ life.state) = Option.map _ life.state
    rw [Option.map_map]
    rfl
  all_goals rfl

/-- What the field is compared with is told by what evaluations leave alone. -/
theorem compared_of_ground
    (hground : other.ground = { life.ground with callbacks := other.callbacks }) :
    other.compared = life.compared := by
  have hname : other.name = life.name := (congrArg Life.name hground :)
  have hconfig : other.config = life.config := (congrArg Life.config hground :)
  have htranslator : other.translator = life.translator := (congrArg Life.translator hground :)
  have hvalues : other.values = life.values := (congrArg Life.values hground :)
  have hstates : other.state.map (·.setup) = life.state.map (·.setup) :=
    congrArg Life.state hground
  unfold compared
  cases hstate : life.state with
  | none =>
    rw [hstate, Option.map_none, Option.map_eq_none_iff] at hstates
    rw [hstates]
    rfl
  | some state =>
    rw [hstate, Option.map_some] at hstates
    obtain ⟨old, hold, hsetup⟩ := Option.map_eq_some_iff.1 hstates
    have hevaluation : other.evaluation old = life.evaluation state := by
      unfold evaluation engine value
      rw [hname, hconfig, htranslator, hvalues, FieldState.evaluate_congr hsetup,
        FieldState.targets_of_setup hsetup]
    rw [hold]
    exact congrArg Engine.compared hevaluation

theorem compared_evaluated (life : Life) : life.evaluated.compared = life.compared := by
  have hcallbacks : life.evaluated.callbacks = life.callbacks :=
    (congrArg Life.callbacks (ground_evaluated life) :)
  apply compared_of_ground
  rw [ground_evaluated, hcallbacks]
  rfl

/-- Fields of one setup are the same once they look new and are evaluated. -/
theorem evaluated_renewed_of_ground (hstate : life.state = some state)
    (hother : other.state = some old)
    (hground : other.ground = { life.ground with callbacks := other.callbacks })
    (hcancelled : old.status = .cancelled ↔ state.status = .cancelled) :
    other.renewed.evaluated.edgeless =
      { life.renewed.evaluated.edgeless with callbacks := other.callbacks } := by
  have hrenewed : life.renewed.state = some (state.renewed life.config.preValidate) := by
    rw [renewed, hstate]
    rfl
  have hname := congrArg Life.name hground
  have hconfig := congrArg Life.config hground
  have htranslator := congrArg Life.translator hground
  have hvalues := congrArg Life.values hground
  change other.config = life.config at hconfig
  have hsetup : old.setup = state.setup := by
    have hstates : other.state.map (·.setup) = life.state.map (·.setup) :=
      congrArg Life.state hground
    rw [hother, hstate] at hstates
    exact Option.some.inj hstates
  refine evaluated_of_lastValue hrenewed old.lastValue ?_
  ext1
  case name => exact hname
  case config => exact hconfig
  case translator => exact htranslator
  case values => exact hvalues
  case state =>
    change other.state.map (fun state => state.renewed other.config.preValidate) = _
    rw [hother, hconfig]
    exact congrArg some (FieldState.renewed_of_setup hsetup hcancelled _)
  all_goals rfl

/-- To register a field without a value, with the rules and settings that it has, is to
make it look new and to evaluate it.  All of its dependencies are looked at again. -/
theorem registered_of_repeats (hname : registration.name ≠ "")
    (hcompile : life.compile registration.rules = .ok compiled)
    (hstate : life.state = some state) (hvalue : life.value = none)
    (hrepeats : registration.Repeats state life.config) (henabled : state.disabled = false)
    (hcancelled : state.status = .cancelled ↔ state.Idle)
    (hvalidators : compiled.validators = state.validators)
    (hrequired : compiled.required = state.required) :
    (life.registered registration).edgeless =
        { life.renewed.evaluated.edgeless with callbacks := life.callbacks } ∧
      ∀ source, (life.registered registration).operator? source =
        lastOperator? (state.targets ++ life.compared) source := by
  have hregistered : life.registered registration =
      (life.vacant.enrolled registration compiled).evaluated := by
    rw [registered, if_neg (by simpa using hname), hcompile]
  have hrenewed : life.renewed.state = some (state.renewed life.config.preValidate) := by
    rw [renewed, hstate]
    rfl
  have hnew : registration.state compiled life.config =
      { state.renewed life.config.preValidate with lastValue := none } :=
    FieldState.state_of_repeats hrepeats henabled hcancelled hvalidators hrequired
  have hvalues : (life.vacant.enrolled registration compiled).values = life.values := by
    funext name
    show (if name = life.name then registration.value
      else if name = life.name then none else life.values name) = life.values name
    split
    · next hname =>
      rw [hrepeats.value, hname]
      exact hvalue.symm
    · rfl
  rw [hregistered]
  constructor
  · refine evaluated_of_lastValue hrenewed none ?_
    ext1
    case values => exact hvalues
    case state => exact congrArg some hnew
    all_goals rfl
  · intro source
    have hground : (life.vacant.enrolled registration compiled).ground = life.ground := by
      ext1
      case values => exact hvalues
      case state =>
        show some (registration.state compiled life.config).setup = life.state.map (·.setup)
        rw [hnew, hstate]
        rfl
      all_goals rfl
    have hcompared : (life.vacant.enrolled registration compiled).compared = life.compared :=
      compared_of_ground hground
    have htargets : (registration.state compiled life.config).targets = state.targets := by
      rw [hnew]
      rfl
    have henrolled : (life.vacant.enrolled registration compiled).operator? source =
        lastOperator? state.targets source := by
      rw [← htargets, ← Option.or_none (o := lastOperator? _ source)]
      exact operator?_depend (life.vacant.withValue registration.value) _ source
    rw [operator?_evaluated, hcompared, henrolled, lastOperator?_append]

end Life

end FieldRules
