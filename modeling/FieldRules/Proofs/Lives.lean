import Mathlib.Logic.Function.Iterate
import FieldRules.Proofs.SortedTimers
import FieldRules.Proofs.Staleness
import FieldRules.Proofs.Untouched

/-!
# The life of a field

A context may know much about one name: a field that is registered now, and timers and
inquiries that fields of this name have left behind.  The `Life` of the field is what
still matters to it.  The numbers of evaluations are left out, and instants are counted
from the present one, so that two contexts with different pasts can have the same life
of a field.

A life has operations of its own, which are told without a context.  What a context
does with a field is what these operations do with its life.

* `Context.life`: the life of a field in a context.
* `Life.evaluated`, `Life.concluded`, `Life.asked` and their like: the operations.
* `life_evaluate`, `life_conclude`: evaluations and inquiries that end, as operations
  on the life of their field.
* `life_of_untouched`: what is done for the sake of other fields leaves a life as it is.
-/

namespace FieldRules

/-! ## Without numbers -/

/-- The state of a field without the number of the evaluation whose callbacks are out. -/
def FieldState.unnumbered (state : FieldState) : FieldState :=
  { state with generation := state.generation.map fun _ => 0 }

/-- The inquiry without the number of its evaluation. -/
def Inquiry.unnumbered (inquiry : Inquiry) : Inquiry :=
  { inquiry with generation := 0 }

/-- The event without the number of an evaluation. -/
def Event.unnumbered : Event → Event
  | evaluate field => evaluate field
  | reply inquiry results => reply inquiry.unnumbered results

namespace FieldState

theorem unnumbered_showing (state : FieldState) (status : Status) :
    (state.showing status).unnumbered = state.unnumbered.showing status := by
  unfold showing unnumbered
  dsimp only
  split <;> rfl

theorem unnumbered_record (state : FieldState) (valid : Bool) (message : String) :
    (state.record valid message).unnumbered = state.unnumbered.record valid message :=
  unnumbered_showing _ _

theorem unnumbered_evaluated (state : FieldState) (value : Option String) (generation : Nat)
    (result : Except ConfigError Evaluation) :
    (state.evaluated value generation result).unnumbered =
      state.unnumbered.evaluated value 0 result := by
  cases result with
  | error e => exact unnumbered_record _ _ _
  | ok e =>
    unfold evaluated
    dsimp only [unnumbered]
    split
    · rfl
    · split
      · exact unnumbered_showing _ _
      · exact unnumbered_record _ _ _

theorem unnumbered_concluded (state : FieldState) (engine : Engine) (e : Evaluation)
    (verdict : Except ConfigError Verdict) :
    (state.concluded engine e verdict).unnumbered = state.unnumbered.concluded engine e verdict := by
  cases verdict with
  | ok verdict => exact unnumbered_record _ _ _
  | error e => exact unnumbered_record _ _ _

theorem problem?_unnumbered (state : FieldState) : state.unnumbered.problem? = state.problem? :=
  rfl

theorem map_unnumbered_launched (state : FieldState) (value : Option String) (generation : Nat)
    (result : Except ConfigError Evaluation) :
    (state.launched value generation result).map Inquiry.unnumbered =
      state.unnumbered.launched value 0 result := by
  cases result with
  | error e => rfl
  | ok e =>
    unfold launched
    rw [apply_ite (List.map Inquiry.unnumbered)]
    rfl

end FieldState

/-! ## Lives -/

/-- What matters to a field: itself, what it has under way, and what it is told of the
rest.  Instants are counted from the present one. -/
@[ext]
structure Life where
  name : String
  config : EngineConfig
  translator : Message.Translator
  callbacks : String → Option Callback
  values : String → Option String
  state : Option FieldState
  entry : Option SummaryEntry
  edges : List Dependency
  timers : List (Timer Event)
  ready : List Inquiry

namespace Life

/-- What evaluations need beside the field. -/
def engine (life : Life) : Engine :=
  Engine.ofConfig life.translator life.config

/-- The value of the field. -/
def value (life : Life) : Option String :=
  life.values life.name

/-- What the evaluation of the field gives. -/
def evaluation (life : Life) (state : FieldState) : Except ConfigError Evaluation :=
  life.engine.evaluate state life.value fun name =>
    if name ∈ state.targets.map (·.field) then life.values name else none

/-- The life with more dependencies of the field. -/
def depend (life : Life) (targets : List Target) : Life :=
  { life with
    edges := targets.foldl (fun edges target =>
      Dependencies.putEdge ⟨life.name, target.field, target.operator⟩ edges) life.edges }

/-- The life after an evaluation.  What was asked before is forgotten. -/
def evaluated (life : Life) : Life :=
  match life.state with
  | none => life
  | some state =>
    let result := life.evaluation state
    { life.depend (Engine.compared result) with
      state := some (state.evaluated life.value 0 result)
      entry := (state.evaluated life.value 0 result).problem?
      timers := life.timers.filter (·.key.isSome)
      ready := state.launched life.value 0 result }

/-- The life after an inquiry. -/
def concluded (life : Life) (inquiry : Inquiry) (results : Results) : Life :=
  match life.state with
  | none => life
  | some state =>
    let state := state.concluded life.engine inquiry.evaluation
      (life.engine.collect inquiry.field results)
    { life with state := some state, entry := state.problem? }

/-- The reply of the callback with the given name. -/
def ask (life : Life) (name : String) (request : Request) : Reply :=
  match life.callbacks name with
  | some callback => callback.reply request
  | none => ⟨0, .error (.notRegistered name)⟩

/-- The life in which the callbacks of an inquiry have been asked. -/
def asked (life : Life) (inquiry : Inquiry) : Life :=
  let replies : Replies := inquiry.evaluation.pending.map fun check =>
    (check, life.ask check.callback inquiry.request)
  if replies.delay = 0 then life.concluded inquiry replies.results
  else
    { life with
      timers := Clock.insertTimer ⟨replies.delay, none, .reply inquiry replies.results⟩
        life.timers }

/-- The life in which the callbacks of all inquiries have been asked. -/
def settled (life : Life) : Life :=
  life.ready.foldl asked { life with ready := [] }

/-- The life without the waiting evaluation. -/
def cancelled (life : Life) : Life :=
  { life with timers := life.timers.filter (·.key.isNone) }

/-- The life after an evaluation that takes the place of the waiting one. -/
def again (life : Life) : Life :=
  life.cancelled.evaluated

/-- The life in which all that was asked is out of date. -/
def invalidated (life : Life) : Life :=
  { life with timers := life.timers.filter (·.key.isSome), ready := [] }

end Life

namespace Context

/-- Whether an inquiry of the field has still an effect when it ends. -/
def wants (c : Context) (field : String) (inquiry : Inquiry) : Bool :=
  inquiry.field = field && c.generations.isCurrent field inquiry.generation

/-- Whether an event matters to the field. -/
def awaits (c : Context) (field : String) : Event → Bool
  | .evaluate other => other = field
  | .reply inquiry _ => c.wants field inquiry

/-- A timer as it is seen at an instant. -/
def seen (now : Nat) (timer : Timer Event) : Timer Event :=
  ⟨timer.due - now, timer.key, timer.event.unnumbered⟩

/-- The life of a field. -/
def life (c : Context) (field : String) : Life where
  name := field
  config := c.config
  translator := c.translator
  callbacks := c.callbacks.find?
  values := c.values.find?
  state := (c.fields.find? field).map (·.unnumbered)
  entry := c.summary.get? field
  edges := c.dependencies.edges.filter (·.dependent = field)
  timers := (c.clock.timers.filter fun timer => c.awaits field timer.event).map (seen c.clock.now)
  ready := (c.ready.filter (c.wants field)).map (·.unnumbered)

/-! ## Timers and inquiries that fit -/

/-- The timers are in order and have the keys of their events, and the number of every
inquiry has been issued. -/
structure InTime (clock : Clock Event) (ready : List Inquiry) (generations : Generations) :
    Prop where
  sound : clock.Sound
  sorted : clock.Sorted
  numbered : ∀ inquiry ∈ ready ++ clock.inquiries, inquiry.generation ≤ generations.issued

/-- The timers and inquiries of the context fit together. -/
abbrev Timely (c : Context) : Prop :=
  InTime c.clock c.ready c.generations

variable {c c' d : Context} {field other : String} {state : FieldState}

/-- An inquiry that is under way is seen by its field. -/
theorem mem_inquiries_view {inquiry : Inquiry} (hmem : inquiry ∈ c.ready ++ c.clock.inquiries) :
    inquiry ∈ (c.view inquiry.field).inquiries :=
  Multiset.mem_coe.2 (List.mem_filter.2 ⟨hmem, decide_eq_true rfl⟩)

theorem Reachable.generation_le (hreach : c.Reachable) {inquiry : Inquiry}
    (hmem : inquiry ∈ c.ready ++ c.clock.inquiries) :
    inquiry.generation ≤ c.generations.issued :=
  (hreach.tracked inquiry.field).counted.inquiry_le (mem_inquiries_view hmem)

theorem Reachable.timely (hreach : c.Reachable) : c.Timely where
  sound := hreach.sound.regular.clock
  sorted := hreach.sorted
  numbered _ hmem := hreach.generation_le hmem

/-- The inquiry whose end a timer waits for is under way. -/
theorem mem_inquiries_of_timer {clock : Clock Event} (hsound : clock.Sound) {timer : Timer Event}
    (hmem : timer ∈ clock.timers) {inquiry : Inquiry} {results : Results}
    (hevent : timer.event = .reply inquiry results) : inquiry ∈ clock.inquiries := by
  have hkey := hsound.key_eq timer hmem
  rw [hevent] at hkey
  obtain ⟨due, key, event⟩ := timer
  subst hevent hkey
  exact List.mem_filterMap.2 ⟨_, hmem, rfl⟩

theorem InTime.numbered_of_timer {clock : Clock Event} {ready : List Inquiry}
    {generations : Generations} (hin : InTime clock ready generations) {timer : Timer Event}
    (hmem : timer ∈ clock.timers) {inquiry : Inquiry} {results : Results}
    (hevent : timer.event = .reply inquiry results) : inquiry.generation ≤ generations.issued :=
  hin.numbered inquiry (List.mem_append_right _ (mem_inquiries_of_timer hin.sound hmem hevent))

theorem Timely.cancel (htimely : c.Timely) (field : String) : (c.cancel field).Timely where
  sound := htimely.sound.cancel field
  sorted := htimely.sorted.cancel field
  numbered := by
    have hinquiries : (c.cancel field).clock.inquiries = c.clock.inquiries :=
      Clock.inquiries_cancel c.clock field
    intro inquiry hmem
    rw [hinquiries] at hmem
    exact htimely.numbered inquiry hmem

theorem Timely.retain (htimely : c.Timely) (result : Except ConfigError Unit) :
    (c.retain result).Timely := by
  cases result <;> exact htimely

/-- An inquiry gets the number of the evaluation that makes it. -/
theorem Timely.evaluate (htimely : c.Timely) (horderly : c.Orderly) (field : String) :
    (c.evaluate field).1.Timely := by
  cases hfind : c.fields.find? field with
  | none =>
    rw [evaluate_of_unregistered c hfind]
    refine ⟨htimely.sound, htimely.sorted, fun inquiry hmem => ?_⟩
    have hle := htimely.numbered inquiry hmem
    exact Nat.le_succ_of_le hle
  | some state =>
    obtain ⟨hname, hfield⟩ := horderly.named field state hfind
    rw [evaluate_eq c hfind hname hfield]
    refine ⟨htimely.sound, htimely.sorted, fun inquiry hmem => ?_⟩
    have hissued : inquiry ∈ c.ready ++ c.clock.inquiries ∨
        inquiry ∈ state.launched (c.values.find? field) (c.generations.issued + 1)
          (c.evaluation state) := by
      simp only [launch, stored, put, depend, begun, invalidate, note, List.mem_append] at hmem ⊢
      tauto
    rcases hissued with hold | hnew
    · exact Nat.le_succ_of_le (htimely.numbered inquiry hold)
    · exact (View.launched_eq hnew).2.1.le

/-! ## Small changes to a life -/

theorem state_life (hfind : c.fields.find? field = some state) :
    (c.life field).state = some state.unnumbered := by
  rw [life, hfind]
  rfl

theorem life_retain (result : Except ConfigError Unit) :
    (c.retain result).life field = c.life field := by
  cases result <;> rfl

theorem life_note (mark : Mark) : (c.note mark).life field = c.life field :=
  rfl

theorem life_put (hname : state.name = field) :
    (c.put state).life field = { c.life field with state := some state.unnumbered } := by
  subst hname
  ext1
  case state => simp [life, put]
  all_goals rfl

theorem life_dismiss (field : String) :
    (c.dismiss field).life field = { c.life field with entry := none } := by
  ext1
  case entry => exact c.summary.get?_remove_self field
  all_goals rfl

theorem life_stored (hname : state.name = field) :
    (c.stored state).life field =
      { c.life field with state := some state.unnumbered, entry := state.problem? } := by
  subst hname
  ext1
  case state => simp [life, stored, put]
  case entry => exact c.summary.get?_followed_self state
  all_goals rfl

/-- The key of a timer that matters to a field tells whether it is an evaluation. -/
theorem key_of_awaits (hclock : c.clock.Sound) {timer : Timer Event}
    (hmem : timer ∈ c.clock.timers) (hawaits : c.awaits field timer.event = true) :
    (timer.key = some field ∧ timer.event = .evaluate field) ∨
      (timer.key = none ∧ ∃ inquiry results, timer.event = .reply inquiry results ∧
        c.wants field inquiry = true) := by
  have hkey := hclock.key_eq timer hmem
  cases hevent : timer.event with
  | evaluate other =>
    rw [hevent] at hkey hawaits
    obtain rfl : other = field := by simpa [awaits] using hawaits
    exact .inl ⟨hkey, rfl⟩
  | reply inquiry results =>
    rw [hevent] at hkey hawaits
    exact .inr ⟨hkey, inquiry, results, rfl, hawaits⟩

/-- A field of which no evaluation waits and no inquiry is wanted has nothing under way. -/
theorem life_of_unwanted (hclock : c.clock.Sound) (hwaiting : c.clock.isPending field = false)
    (hunwanted : ∀ inquiry ∈ c.ready ++ c.clock.inquiries, c.wants field inquiry = false) :
    (c.life field).timers = [] ∧ (c.life field).ready = [] := by
  constructor
  · change List.map _ (List.filter _ _) = []
    rw [List.map_eq_nil_iff, List.filter_eq_nil_iff]
    intro timer hmem hawaits
    rcases key_of_awaits hclock hmem hawaits with
      ⟨hkey, -⟩ | ⟨-, inquiry, results, hevent, hwanted⟩
    · rw [Clock.isPending, List.any_eq_false] at hwaiting
      exact hwaiting timer hmem (by simpa using hkey)
    · have hinquiry := mem_inquiries_of_timer hclock hmem hevent
      rw [hunwanted inquiry (List.mem_append_right _ hinquiry)] at hwanted
      cases hwanted
  · change List.map _ (List.filter _ _) = []
    rw [List.map_eq_nil_iff, List.filter_eq_nil_iff]
    intro inquiry hmem
    rw [hunwanted inquiry (List.mem_append_left _ hmem)]
    exact Bool.false_ne_true

theorem life_cancel (hclock : c.clock.Sound) (field : String) :
    (c.cancel field).life field = (c.life field).cancelled := by
  ext1
  case timers =>
    change List.map _ (List.filter (fun timer => c.awaits field timer.event)
      (c.clock.timers.filter _)) = List.filter _ (List.map _ _)
    rw [List.filter_filter, List.filter_map, List.filter_filter]
    refine congrArg _ (List.filter_congr fun timer hmem => ?_)
    by_cases hawaits : c.awaits field timer.event = true
    · rcases key_of_awaits hclock hmem hawaits with ⟨hkey, -⟩ | ⟨hkey, -⟩ <;>
        simp [hawaits, hkey, seen]
    · simp [hawaits]
  all_goals rfl

/-- No inquiry has the number that is issued next. -/
theorem life_invalidate (htimely : c.Timely) (field : String) :
    (c.invalidate field).life field = (c.life field).invalidated := by
  have hunwanted : ∀ inquiry, inquiry.generation ≤ c.generations.issued →
      (c.invalidate field).wants field inquiry = false := by
    intro inquiry hle
    have hcurrent : (c.invalidate field).generations.current? field =
        some (c.generations.issued + 1) := c.generations.current?_begin_self field
    have hne : c.generations.issued + 1 ≠ inquiry.generation := by omega
    simp [wants, Generations.isCurrent, hcurrent, hne]
  ext1
  case timers =>
    change List.map _ (List.filter (fun timer => (c.invalidate field).awaits field timer.event)
      c.clock.timers) = List.filter _ (List.map _ _)
    rw [List.filter_map, List.filter_filter]
    refine congrArg _ (List.filter_congr fun timer hmem => ?_)
    have hkey := htimely.sound.key_eq timer hmem
    cases hevent : timer.event with
    | evaluate other =>
      rw [hevent] at hkey
      simp [awaits, seen, hkey, Event.key?]
    | reply inquiry results =>
      rw [hevent] at hkey
      have hnot := hunwanted inquiry (htimely.numbered_of_timer hmem hevent)
      simp [awaits, seen, hkey, Event.key?, hnot]
  case ready =>
    change List.map _ (List.filter ((c.invalidate field).wants field) c.ready) = []
    rw [List.map_eq_nil_iff, List.filter_eq_nil_iff]
    intro inquiry hmem
    rw [hunwanted inquiry (htimely.numbered inquiry (List.mem_append_left _ hmem))]
    exact Bool.false_ne_true
  all_goals rfl

theorem filter_putEdge_self {edge : Dependency} (hedge : edge.dependent = field)
    (edges : List Dependency) :
    (Dependencies.putEdge edge edges).filter (·.dependent = field) =
      Dependencies.putEdge edge (edges.filter (·.dependent = field)) := by
  induction edges with
  | nil => simp [Dependencies.putEdge, hedge]
  | cons head rest ih =>
    rw [Dependencies.putEdge]
    by_cases hhead : head.dependent = field
    · rw [List.filter_cons_of_pos (by simpa using hhead), Dependencies.putEdge]
      split
      · rw [List.filter_cons_of_pos (by simpa using hedge)]
      · rw [List.filter_cons_of_pos (by simpa using hhead), ih]
    · rw [if_neg fun h => hhead (h.1.trans hedge), List.filter_cons_of_neg (by simpa using hhead),
        List.filter_cons_of_neg (by simpa using hhead), ih]

theorem life_depend (field : String) (targets : List Target) :
    (c.depend field targets).life field = (c.life field).depend targets := by
  have hedges : ∀ (targets : List Target) (dependencies : Dependencies),
      (targets.foldl (fun dependencies target =>
          dependencies.register ⟨field, target.field, target.operator⟩) dependencies).edges.filter
        (·.dependent = field) =
      targets.foldl (fun edges target =>
          Dependencies.putEdge ⟨field, target.field, target.operator⟩ edges)
        (dependencies.edges.filter (·.dependent = field)) := by
    intro targets
    induction targets with
    | nil => exact fun _ => rfl
    | cons target rest ih =>
      intro dependencies
      have hput := filter_putEdge_self
        (show (⟨field, target.field, target.operator⟩ : Dependency).dependent = field from rfl)
        dependencies.edges
      rw [List.foldl_cons, List.foldl_cons, ih, Dependencies.register, hput]
  ext1
  case edges => exact hedges targets c.dependencies
  all_goals rfl

theorem life_launch {inquiries : List Inquiry}
    (hwanted : ∀ inquiry ∈ inquiries, c.wants field inquiry = true) :
    (c.launch inquiries).life field =
      { c.life field with
        ready := (c.life field).ready ++ inquiries.map (·.unnumbered) } := by
  ext1
  case ready =>
    change List.map _ (List.filter (c.wants field) (c.ready ++ inquiries)) = _
    rw [List.filter_append, List.map_append, List.filter_eq_self.2 hwanted]
    rfl
  all_goals rfl

/-! ## Evaluations and inquiries -/

theorem evaluation_life (hname : state.name = field) :
    (c.life field).evaluation state.unnumbered = c.evaluation state := by
  subst hname
  have hothers : (fun name => if name ∈ state.targets.map (·.field) then c.values.find? name else none)
      = Assoc.find? (c.values.subset (state.targets.map (·.field))) := by
    funext name
    rw [Values.find?_subset]
  unfold evaluation
  rw [← hothers]
  rfl

/-- The evaluation of a field is the evaluation of its life. -/
theorem life_evaluate (hfind : c.fields.find? field = some state) (hname : state.name = field)
    (hfield : field ≠ "") (htimely : c.Timely) :
    (c.evaluate field).1.life field = (c.life field).evaluated := by
  have hlaunched := fun inquiry (hmem : inquiry ∈ state.launched (c.values.find? field)
    (c.generations.issued + 1) (c.evaluation state)) => View.launched_eq hmem
  have hstate := state_life hfind
  have hname' := (state.evaluated_name (c.values.find? field) (c.generations.issued + 1)
    (c.evaluation state)).trans hname
  rw [evaluate_eq c hfind hname hfield, life_launch, life_stored hname', life_depend, begun, life_note,
    life_invalidate htimely]
  · rw [Life.evaluated, hstate]
    dsimp only
    rw [evaluation_life hname, FieldState.unnumbered_evaluated, FieldState.map_unnumbered_launched,
      ← FieldState.problem?_unnumbered, FieldState.unnumbered_evaluated]
    rfl
  · intro inquiry hmem
    obtain ⟨hinquiry, hgeneration, -⟩ := hlaunched inquiry hmem
    have hcurrent : (c.begun field).generations.current? field =
        some (c.generations.issued + 1) := c.generations.current?_begin_self field
    change (decide (inquiry.field = field) &&
      (c.begun field).generations.isCurrent field inquiry.generation) = true
    rw [Generations.isCurrent, hcurrent, hgeneration, hinquiry, hname]
    simp

/-- The end of an inquiry that is still wanted is its end in the life of the field. -/
theorem life_conclude {inquiry : Inquiry} (hfind : c.fields.find? field = some state)
    (hname : state.name = field) (hfield : field ≠ "") (hwanted : c.wants field inquiry = true)
    (results : Results) :
    (c.conclude inquiry results).life field = (c.life field).concluded inquiry.unnumbered results := by
  obtain ⟨hinquiry, hcurrent⟩ : inquiry.field = field ∧
      c.generations.current? field = some inquiry.generation := by
    simpa [wants, Generations.isCurrent] using hwanted
  subst hinquiry
  have hstate := state_life hfind
  have hname' := (FieldState.name_of_setup (state.setup_concluded c.engine inquiry.evaluation
    (c.engine.collect inquiry.field results))).trans hname
  rw [conclude_eq hfind (by rwa [hname]) hcurrent, life_retain, life_stored hname', life_note,
    Life.concluded, hstate]
  dsimp only
  rw [FieldState.unnumbered_concluded, ← FieldState.problem?_unnumbered,
    FieldState.unnumbered_concluded]
  rfl

theorem conclude_of_unwanted {inquiry : Inquiry} (hinquiry : inquiry.field = field)
    (hunwanted : c.wants field inquiry = false) (results : Results) :
    c.conclude inquiry results = c := by
  refine conclude_of_stale (fun hcurrent => ?_) results
  rw [wants, Generations.isCurrent, ← hinquiry, hcurrent] at hunwanted
  simp at hunwanted

/-! ## Other fields -/

/-- What a field is told of the rest of the context. -/
def surroundings (c : Context) :
    EngineConfig × Message.Translator × Callbacks × Values × Nat :=
  (c.config, c.translator, c.callbacks, c.values, c.clock.now)

theorem surroundings_retain (result : Except ConfigError Unit) :
    (c.retain result).surroundings = c.surroundings := by
  cases result <;> rfl

theorem surroundings_evaluate (horderly : c.Orderly) (field : String) :
    (c.evaluate field).1.surroundings = c.surroundings := by
  cases hfind : c.fields.find? field with
  | none =>
    rw [evaluate_of_unregistered c hfind]
    rfl
  | some state =>
    obtain ⟨hname, hfield⟩ := horderly.named field state hfind
    rw [evaluate_eq c hfind hname hfield]
    rfl

theorem surroundings_conclude (horderly : c.Orderly) (inquiry : Inquiry) (results : Results) :
    (c.conclude inquiry results).surroundings = c.surroundings := by
  by_cases hcurrent : c.generations.current? inquiry.field = some inquiry.generation
  · cases hfind : c.fields.find? inquiry.field with
    | none =>
      unfold conclude
      rw [hfind]
      split <;> rfl
    | some state =>
      obtain ⟨hname, hfield⟩ := horderly.named _ state hfind
      rw [conclude_eq hfind (by rwa [hname]) hcurrent, surroundings_retain]
      rfl
  · rw [conclude_of_stale hcurrent]

theorem surroundings_fire (horderly : c.Orderly) (event : Event) :
    (c.fire event).surroundings = c.surroundings := by
  cases event with
  | evaluate field => exact (surroundings_retain _).trans (surroundings_evaluate horderly field)
  | reply inquiry results => exact surroundings_conclude horderly inquiry results

theorem surroundings_ask (horderly : c.Orderly) (inquiry : Inquiry) :
    (c.ask inquiry).surroundings = c.surroundings := by
  unfold ask await
  split
  · exact surroundings_conclude (c := { c with asked := c.asked ++ c.requests inquiry })
      ⟨horderly.named, horderly.clock⟩ inquiry _
  · rfl

theorem awaits_iff_of_generations {event : Event}
    (hgeneration : c'.generations.current? field = c.generations.current? field) :
    c'.awaits field event = c.awaits field event := by
  cases event with
  | evaluate other => rfl
  | reply inquiry results => simp only [awaits, wants, Generations.isCurrent, hgeneration]

theorem field_of_awaits {event : Event} (hawaits : c.awaits field event = true) :
    event.field = field := by
  cases event with
  | evaluate other => simpa [awaits, Event.field] using hawaits
  | reply inquiry results =>
    have hfield := (Bool.and_eq_true_iff.1 hawaits).1
    simpa [Event.field] using hfield

/-- What is kept about one field is kept among what is kept about all but some others. -/
theorem filter_among {α : Type} {fields : List String} (hnot : field ∉ fields) (key : α → String)
    (keeps : α → Bool) (hkeeps : ∀ item, keeps item = true → key item = field) (items : List α) :
    items.filter keeps = (items.filter (key · ∉ fields)).filter keeps := by
  rw [List.filter_filter]
  refine List.filter_congr fun item _ => ?_
  by_cases hitem : keeps item = true
  · simp [hkeeps item hitem, hnot]
  · simp [hitem]

/-- What is done for the sake of other fields leaves the life of a field as it is, as
long as nothing changes that it is told. -/
theorem life_of_untouched {fields : List String} (huntouched : Untouched fields c c')
    (hnot : field ∉ fields) (hsame : c'.surroundings = c.surroundings) :
    c'.life field = c.life field := by
  simp only [surroundings, Prod.mk.injEq] at hsame
  obtain ⟨hconfig, htranslator, hcallbacks, hvalues, hnow⟩ := hsame
  have hgeneration := huntouched.generation field hnot
  ext1
  case name => rfl
  case config => exact hconfig
  case translator => exact htranslator
  case callbacks => exact congrArg Assoc.find? hcallbacks
  case values => exact congrArg Assoc.find? hvalues
  case state => exact congrArg (Option.map (·.unnumbered)) (huntouched.state field hnot)
  case entry =>
    have hentries := filter_among hnot (fun entry : SummaryEntry => entry.field) (·.field = field)
      fun _ h => by simpa using h
    change c'.summary.entries.find? _ = c.summary.entries.find? _
    rw [← List.head?_filter, ← List.head?_filter, hentries c'.summary.entries,
      huntouched.entries, ← hentries]
  case edges =>
    have hedges := filter_among hnot (fun edge : Dependency => edge.dependent) (·.dependent = field)
      fun _ h => by simpa using h
    change c'.dependencies.edges.filter _ = c.dependencies.edges.filter _
    rw [hedges c'.dependencies.edges, huntouched.dependencies, ← hedges]
  case timers =>
    change List.map (seen c'.clock.now) (c'.clock.timers.filter _) =
      List.map (seen c.clock.now) (c.clock.timers.filter _)
    have htimers := filter_among hnot (fun timer : Timer Event => timer.event.field) _
      fun timer (hawaits : c.awaits field timer.event = true) => field_of_awaits hawaits
    simp only [awaits_iff_of_generations hgeneration]
    rw [hnow, htimers c'.clock.timers, huntouched.timers, ← htimers]
  case ready =>
    change List.map _ (c'.ready.filter _) = List.map _ (c.ready.filter _)
    have hwants : c'.wants field = c.wants field := by
      funext inquiry
      simp only [wants, Generations.isCurrent, hgeneration]
    have hwanted : ∀ inquiry, c.wants field inquiry = true → inquiry.field = field := by
      intro inquiry h
      simpa using (Bool.and_eq_true_iff.1 h).1
    have hready := filter_among hnot (fun inquiry : Inquiry => inquiry.field) _ hwanted
    rw [hwants, hready c'.ready, huntouched.ready, ← hready]

end Context

end FieldRules
