import FieldRules.Proofs.View

/-!
# How the view of a field moves

Whatever happens to a context, the view of each field changes by `Move`s.  The
constructors of `Move` are all that can become of a field, so that what is true
of a field at all times is proved by one case for each of them.

Most operations change a field and evaluate it at once.  `Prepares` lists these
changes; the view between the change and the evaluation is never seen.

* `View.Intact`: the entry in the summary, the form and the rules of a field fit
  its state, and nothing is left of a field that is not registered.
* `Intact.move`: every move keeps this.
-/

namespace FieldRules

/-! ## Moves -/

namespace FieldState

/-- The field after its inquiry. -/
def concluded (state : FieldState) (engine : Engine) (e : Evaluation)
    (verdict : Except ConfigError Verdict) : FieldState :=
  let state := { state with generation := none }
  match verdict with
  | .ok verdict =>
    state.record (engine.settle e verdict).valid (engine.settle e verdict).message
  | .error _ => state.record false e.message

/-- What the field is set up with, without anything that evaluations find or
that is shown. -/
def setup (state : FieldState) : FieldState :=
  { state with
    lastValue := none
    valid := true
    message := ""
    status := .untouched
    touched := false
    generation := none }

/-- The validators of the field are those of its rules. -/
def Compiled (state : FieldState) : Prop :=
  ∃ compiled, Rule.compile state.rules = .ok compiled ∧
    state.validators = compiled.validators ∧ state.required = compiled.required

end FieldState

/-- Some field with compiled rules cannot be evaluated. -/
def Engine.Fails (engine : Engine) : Prop :=
  ∃ (state : FieldState) (value : Option String) (others : String → Option String)
    (e : ConfigError), state.Compiled ∧ engine.evaluate state value others = .error e

namespace View

/-- The view of a field of which nothing is known yet. -/
def empty : View where
  state := none
  value := none
  form := none
  entry := none
  waiting := false
  current := none
  issued := 0
  inquiries := 0
  marks := []

/-- The view of a field whose validation has been stopped. -/
def suspended (v : View) (state : FieldState) (mark : Mark) : View :=
  { v with
    state := some state.suspended
    entry := none
    waiting := false
    current := some (v.issued + 1)
    issued := v.issued + 1
    marks := v.marks ++ [mark] }

/-- The view of a field that has been removed. -/
def removed (v : View) (field : String) : View :=
  { v with
    state := none
    value := none
    form := none
    entry := none
    waiting := false
    current := none
    marks := v.marks ++ [.removed field] }

/-- The view of a field whose value has changed. -/
def changed (v : View) (field : String) (state : FieldState) (value : Option String)
    (waiting : Bool) : View :=
  { v with
    state := some state.changed
    value
    waiting
    marks := v.marks ++ [.changed field value] }

/-- The view of a field whose inquiry has ended. -/
def concluded (v : View) (engine : Engine) (state : FieldState) (inquiry : Inquiry)
    (verdict : Except ConfigError Verdict) : View :=
  { v with
    state := some (state.concluded engine inquiry.evaluation verdict)
    entry := (state.concluded engine inquiry.evaluation verdict).problem?
    inquiries := v.inquiries.erase inquiry
    marks := v.marks ++ [.concluded inquiry.field inquiry.generation] }

/-- The view of a field that has been reset with its form.  Other fields are
reset along with it, so the generation that outdates its inquiries need not be
the first one that is issued, nor the last. -/
inductive Renewed (field : String) (v : View) : View → Prop where
  | intro {state : FieldState} (hstate : v.state = some state) (touched emptied : Bool)
      {current issued : Nat} (hcurrent : v.issued < current) (hissued : current ≤ issued) :
      Renewed field v
        { v with
          state := some (state.renewed touched)
          value := if emptied then none else v.value
          entry := none
          waiting := false
          current := some current
          issued
          marks := v.marks ++ [.reset field] }

end View

/-- What becomes of a field just before it is evaluated. -/
inductive Prepares (field : String) (v : View) : View → Prop where
  | again {state : FieldState} (hstate : v.state = some state) :
      Prepares field v { v with waiting := false }
  | touched {state : FieldState} (hstate : v.state = some state) :
      Prepares field v
        { v with state := some { state with touched := true }, waiting := false }
  | ruled {state : FieldState} (hstate : v.state = some state) (rules : String)
      {compiled : Rule.Compiled} (hcompile : Rule.compile rules = .ok compiled)
      (hrules : compiled.validators ≠ []) :
      Prepares field v
        { v with
          state := some (state.ruled rules compiled)
          marks := v.marks ++ [.ruled field] }
  | enabled {state : FieldState} (hstate : v.state = some state) :
      Prepares field v { v with state := some state.enabled }
  | changed {state : FieldState} (hstate : v.state = some state)
      (hactive : state.status ≠ .cancelled) (value : Option String) :
      Prepares field v (v.changed field state value false)
  | renewed {w : View} (hrenewed : v.Renewed field w) : Prepares field v w
  | enrolled (habsent : v.state = none) (registration : Registration)
      {compiled : Rule.Compiled} (config : EngineConfig)
      (hname : registration.name = field) (hfield : field ≠ "")
      (hcompile : Rule.compile registration.rules = .ok compiled) :
      Prepares field v
        { v with
          state := some (registration.state compiled config)
          value := registration.value
          form := registration.form }

/-- What can become of a field. -/
inductive Move (engine : Engine) (field : String) (v : View) : View → Prop where
  | elsewhere {issued : Nat} (hissued : v.issued ≤ issued) :
      Move engine field v { v with issued }
  | evaluated {w : View} {state : FieldState} (hprepares : Prepares field v w)
      (hstate : w.state = some state) (others : String → Option String) :
      Move engine field v
        (w.evaluated state (engine.evaluate state w.value others))
  | disabled {state : FieldState} (hstate : v.state = some state) :
      Move engine field v (v.suspended { state with disabled := true } (.disabled field))
  | unruled {state : FieldState} (hstate : v.state = some state) (rules : String)
      {compiled : Rule.Compiled} (hcompile : Rule.compile rules = .ok compiled)
      (hrules : compiled.validators = []) :
      Move engine field v (v.suspended (state.withRules rules compiled) (.ruled field))
  | removed {state : FieldState} (hstate : v.state = some state) :
      Move engine field v (v.removed field)
  | delayed {state : FieldState} (hstate : v.state = some state)
      (hactive : state.status ≠ .cancelled) (value : Option String) :
      Move engine field v (v.changed field state value true)
  | unseen {state : FieldState} (hstate : v.state = some state)
      (hidle : state.status = .cancelled) (value : Option String) :
      Move engine field v (v.changed field state value v.waiting)
  | revealed {state : FieldState} (hstate : v.state = some state) (hinvalid : state.valid = false)
      (hwaiting : v.waiting = false) :
      Move engine field v { v with state := some state.revealed }
  | concluded {state : FieldState} {inquiry : Inquiry} (hstate : v.state = some state)
      (hmem : inquiry ∈ v.inquiries) (hcurrent : v.current = some inquiry.generation)
      (verdict : Except ConfigError Verdict) :
      Move engine field v (v.concluded engine state inquiry verdict)
  | dropped {inquiry : Inquiry} (hmem : inquiry ∈ v.inquiries)
      (hstale : v.current ≠ some inquiry.generation) :
      Move engine field v { v with inquiries := v.inquiries.erase inquiry }
  | abandoned {w : View} (hrenewed : v.Renewed field w) (hfails : engine.Fails) :
      Move engine field v w

/-- Some moves one after the other. -/
abbrev Moves (engine : Engine) (field : String) : View → View → Prop :=
  Relation.ReflTransGen (Move engine field)

/-! ## Evaluations leave the setup of a field alone -/

namespace FieldState

theorem setup_showing (state : FieldState) (status : Status) :
    (state.showing status).setup = state.setup := by
  rw [showing_eq]
  rfl

theorem setup_record (state : FieldState) (valid : Bool) (message : String) :
    (state.record valid message).setup = state.setup :=
  setup_showing _ _

theorem setup_evaluated (state : FieldState) (value : Option String) (generation : Nat)
    (result : Except ConfigError Evaluation) :
    (state.evaluated value generation result).setup = state.setup := by
  cases result with
  | error e => exact setup_record _ _ _
  | ok e =>
    unfold evaluated
    dsimp only
    split
    · rfl
    · split
      · exact setup_showing _ _
      · exact setup_record _ _ _

theorem setup_concluded (state : FieldState) (engine : Engine) (e : Evaluation)
    (verdict : Except ConfigError Verdict) :
    (state.concluded engine e verdict).setup = state.setup := by
  cases verdict <;> exact setup_record _ _ _

theorem setup_revealed (state : FieldState) : state.revealed.setup = state.setup := by
  unfold revealed
  split
  · rfl
  · exact setup_showing _ _

theorem problem?_revealed (state : FieldState) : state.revealed.problem? = state.problem? := by
  unfold revealed showing
  split
  · rfl
  · split <;> rfl

/-- What the setup of a field tells is the same for two fields of one setup. -/
theorem congr_setup {α : Type} {f : FieldState → α} {state other : FieldState}
    (hread : ∀ state, f state.setup = f state) (hsetup : other.setup = state.setup) :
    f other = f state := by
  rw [← hread other, hsetup, hread]

theorem name_of_setup {state other : FieldState} (hsetup : other.setup = state.setup) :
    other.name = state.name :=
  congr_setup (f := (·.name)) (fun _ => rfl) hsetup

theorem Compiled.of_setup {state other : FieldState} (hcompiled : state.Compiled)
    (hsetup : other.setup = state.setup) : other.Compiled := by
  obtain ⟨compiled, hcompile, hvalidators, hrequired⟩ := hcompiled
  refine ⟨compiled, ?_, ?_, ?_⟩
  · rw [congr_setup (f := rules) (fun _ => rfl) hsetup, hcompile]
  · rw [congr_setup (f := validators) (fun _ => rfl) hsetup, hvalidators]
  · rw [congr_setup (f := required) (fun _ => rfl) hsetup, hrequired]

/-- An evaluation reads nothing but the setup of a field. -/
theorem evaluate_congr {state other : FieldState} (hsetup : other.setup = state.setup)
    (engine : Engine) : engine.evaluate other = engine.evaluate state := by
  have heval : ∀ state, engine.evaluate state = engine.evaluate state.setup := fun _ => rfl
  rw [heval other, hsetup, ← heval]

end FieldState

/-! ## Intact views -/

namespace View

/-- A registered field has a name, the form and the entry in the summary that
its state tells, and the validators of its rules. -/
structure Present (field : String) (v : View) (state : FieldState) : Prop where
  name : state.name = field
  named : field ≠ ""
  form : state.form = v.form
  entry : v.entry = state.problem?
  compiled : state.Compiled

/-- Nothing is left of a field. -/
structure Absent (v : View) : Prop where
  value : v.value = none
  form : v.form = none
  entry : v.entry = none
  waiting : v.waiting = false
  current : v.current = none

/-- What is known about a field fits together. -/
structure Intact (field : String) (v : View) : Prop where
  present : ∀ state, v.state = some state → v.Present field state
  absent : v.state = none → v.Absent

variable {engine : Engine} {field : String} {v w : View} {state other : FieldState}

theorem Intact.of_present (hstate : v.state = some state) (hpresent : v.Present field state) :
    v.Intact field where
  present other hother := by
    rw [hstate, Option.some.injEq] at hother
    rwa [← hother]
  absent habsent := by simp [hstate] at habsent

/-- The state of a field may change as far as its setup does not, together with
its entry. -/
theorem Present.of_setup (hpresent : v.Present field state) (hsetup : other.setup = state.setup)
    (hform : w.form = v.form) (hentry : w.entry = other.problem?) : w.Present field other where
  name := (FieldState.name_of_setup hsetup).trans hpresent.name
  named := hpresent.named
  form := by
    rw [hform, ← hpresent.form]
    exact FieldState.congr_setup (f := (·.form)) (fun _ => rfl) hsetup
  entry := hentry
  compiled := hpresent.compiled.of_setup hsetup

theorem Intact.empty (field : String) : View.empty.Intact field :=
  ⟨fun state hstate => by simp [View.empty] at hstate, fun _ => ⟨rfl, rfl, rfl, rfl, rfl⟩⟩

theorem Intact.prepares (hintact : v.Intact field) (hprepares : Prepares field v w) :
    w.Intact field := by
  cases hprepares with
  | again hstate =>
    have hpresent := hintact.present _ hstate
    exact .of_present hstate { hpresent with }
  | touched hstate =>
    have hpresent := hintact.present _ hstate
    exact .of_present rfl { hpresent with }
  | ruled hstate rules hcompile hrules =>
    have hpresent := hintact.present _ hstate
    exact .of_present rfl { hpresent with compiled := ⟨_, hcompile, rfl, rfl⟩ }
  | enabled hstate =>
    have hpresent := hintact.present _ hstate
    exact .of_present rfl { hpresent with }
  | changed hstate hactive value =>
    have hpresent := hintact.present _ hstate
    exact .of_present rfl { hpresent with }
  | renewed hrenewed =>
    obtain ⟨hstate, touched, emptied, hcurrent, hissued⟩ := hrenewed
    have hpresent := hintact.present _ hstate
    exact .of_present rfl { hpresent with entry := rfl }
  | enrolled habsent registration config hname hfield hcompile =>
    exact .of_present rfl
      { name := hname, named := hfield, form := rfl, entry := (hintact.absent habsent).entry,
        compiled := ⟨_, hcompile, rfl, rfl⟩ }

theorem Present.intact_evaluated (hpresent : v.Present field state)
    (result : Except ConfigError Evaluation) : (v.evaluated state result).Intact field :=
  .of_present rfl (hpresent.of_setup (FieldState.setup_evaluated _ _ _ _) rfl rfl)

/-- Every move leaves what is known about the field fitting together. -/
theorem Intact.move (hintact : v.Intact field) (hmove : Move engine field v w) :
    w.Intact field := by
  cases hmove with
  | elsewhere hissued =>
    exact ⟨fun state hstate => { hintact.present state hstate with },
      fun habsent => { hintact.absent habsent with }⟩
  | evaluated hprepares hstate others =>
    exact ((hintact.prepares hprepares).present _ hstate).intact_evaluated _
  | disabled hstate =>
    have hpresent := hintact.present _ hstate
    exact .of_present rfl { hpresent with entry := rfl }
  | unruled hstate rules hcompile hrules =>
    have hpresent := hintact.present _ hstate
    exact .of_present rfl { hpresent with entry := rfl, compiled := ⟨_, hcompile, rfl, rfl⟩ }
  | removed hstate =>
    exact ⟨fun state hstate => by simp [removed] at hstate, fun _ => ⟨rfl, rfl, rfl, rfl, rfl⟩⟩
  | delayed hstate hactive value =>
    have hpresent := hintact.present _ hstate
    exact .of_present rfl { hpresent with }
  | unseen hstate hidle value =>
    have hpresent := hintact.present _ hstate
    exact .of_present rfl { hpresent with }
  | revealed hstate hinvalid hwaiting =>
    have hpresent := hintact.present _ hstate
    refine .of_present rfl (hpresent.of_setup (FieldState.setup_revealed _) rfl ?_)
    rw [FieldState.problem?_revealed]
    exact hpresent.entry
  | concluded hstate hmem hcurrent verdict =>
    have hpresent := hintact.present _ hstate
    exact .of_present rfl (hpresent.of_setup (FieldState.setup_concluded _ _ _ _) rfl rfl)
  | dropped hmem hstale =>
    exact ⟨fun state hstate => { hintact.present state hstate with },
      fun habsent => { hintact.absent habsent with }⟩
  | abandoned hrenewed hfails =>
    exact hintact.prepares (.renewed hrenewed)

theorem Intact.moves (hintact : v.Intact field) (hmoves : Moves engine field v w) :
    w.Intact field := by
  induction hmoves with
  | refl => exact hintact
  | tail _ hmove ih => exact ih.move hmove

end View

theorem Moves.of_eq {engine : Engine} {field : String} {v w : View} (heq : w = v) :
    Moves engine field v w :=
  heq ▸ .refl

theorem Prepares.exists_state {field : String} {v w : View} (hprepares : Prepares field v w) :
    ∃ state, w.state = some state := by
  cases hprepares with
  | again hstate => exact ⟨_, hstate⟩
  | renewed hrenewed =>
    obtain ⟨hstate, touched, emptied, hcurrent, hissued⟩ := hrenewed
    exact ⟨_, rfl⟩
  | _ => exact ⟨_, rfl⟩

end FieldRules
