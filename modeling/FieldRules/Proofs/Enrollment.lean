import FieldRules.Command
import FieldRules.Proofs.Following

/-!
# Registering the fields of a definition

The fields of a definition are registered in turn, and each of them is evaluated
when it is registered.  So an evaluation reads the values of the fields that are
listed before its field, and not those of the fields that are listed later.

* `Definition.evaluation`, `Definition.problem?`: what is wrong with a field when
  the fields of a list have their values.
* `Definition.Holds`: a context with the fields of a definition.
* `Registers`, `Enrolled.register`: one more field.
* `exists_context`, `context_unnamed`: all of them.  Only a field without a name is
  refused.
-/

namespace FieldRules

/-! ## What a definition says about a field -/

namespace Registration

/-- The rules of the field compile and ask no callback. -/
def Immediate (field : Registration) : Prop :=
  ∃ compiled, Rule.compile field.rules = .ok compiled ∧ compiled.callbacks = []

instance (field : Registration) : Decidable field.Immediate :=
  match hcompile : Rule.compile field.rules with
  | .ok compiled => decidable_of_iff (compiled.callbacks = []) (by simp [Immediate, hcompile])
  | .error _ => .isFalse (by simp [Immediate, hcompile])

/-- The value that a field of a list is registered with. -/
def valueIn (fields : List Registration) (name : String) : Option String :=
  (fields.find? (·.name = name)).bind (·.value)

/-- The fields that are listed before a field, and the field itself. -/
def upTo (fields : List Registration) (field : Registration) : List Registration :=
  fields.takeWhile (·.name ≠ field.name) ++ [field]

variable {fields : List Registration} {field : Registration} {name : String}

theorem valueIn_append_singleton (hfresh : ∀ other ∈ fields, other.name ≠ field.name) :
    valueIn (fields ++ [field]) name =
      if field.name = name then field.value else valueIn fields name := by
  unfold valueIn
  rw [List.find?_append]
  by_cases hname : field.name = name
  · have hnone : fields.find? (·.name = name) = none := by
      rw [List.find?_eq_none]
      intro other hmem
      rw [decide_eq_true_iff, ← hname]
      exact hfresh other hmem
    simp [hnone, hname]
  · simp [hname]

theorem upTo_append_singleton_self (hfresh : ∀ other ∈ fields, other.name ≠ field.name) :
    upTo (fields ++ [field]) field = fields ++ [field] := by
  rw [upTo, List.takeWhile_append_of_pos, List.takeWhile_cons_of_neg, List.append_nil]
  · simp
  · intro other hmem
    rw [decide_eq_true_iff]
    exact hfresh other hmem

/-- What is listed after a field does not come before it. -/
theorem upTo_append_of_mem (hmem : field ∈ fields) (more : List Registration) :
    upTo (fields ++ more) field = upTo fields field := by
  unfold upTo
  congr 1
  induction fields with
  | nil => cases hmem
  | cons head rest ih =>
    rw [List.cons_append]
    by_cases hhead : head.name = field.name
    · rw [List.takeWhile_cons_of_neg (by simp [hhead]), List.takeWhile_cons_of_neg (by simp [hhead])]
    · rw [List.takeWhile_cons_of_pos (by simp [hhead]), List.takeWhile_cons_of_pos (by simp [hhead])]
      rcases List.mem_cons.1 hmem with rfl | hmem
      · exact absurd rfl hhead
      · rw [ih hmem]

end Registration

namespace Definition

/-- What an evaluation of a field finds when the fields of a list have their
values. -/
def evaluation (definition : Definition) (listed : List Registration) (field : Registration) :
    Except ConfigError Evaluation := do
  let compiled ← Rule.compile field.rules
  definition.start.engine.evaluate (field.state compiled definition.config) field.value
    (Registration.valueIn listed)

/-- What is wrong with a field when the fields of a list have their values. -/
def problem? (definition : Definition) (listed : List Registration) (field : Registration) :
    Option SummaryEntry :=
  match definition.evaluation listed field with
  | .ok e =>
    if e.valid then none
    else some ⟨field.name, field.form, field.options.friendlyName.getD field.name, e.message⟩
  | .error _ => none

/-- A context in which some fields of a definition are registered, and nothing else
has happened. -/
structure Holds (definition : Definition) (fields : List Registration) (c : Context) : Prop where
  sound : c.Sound
  engine : c.engine = definition.start.engine
  idle : c.clock.timers = []
  names : ∀ form, form ∈ c.forms.names ↔ ∃ field ∈ fields, field.form = some form
  values : ∀ name, c.values.find? name = Registration.valueIn fields name
  stored : ∀ field ∈ fields, ∃ compiled state, Rule.compile field.rules = .ok compiled ∧
    compiled.callbacks = [] ∧ c.fields.find? field.name = some state ∧
    state.setup = (field.state compiled definition.config).setup
  absent : ∀ name, (∀ field ∈ fields, field.name ≠ name) → c.fields.find? name = none

/-- A context while the fields of a definition are registered. -/
structure Enrolled (definition : Definition) (fields : List Registration) (c : Context) : Prop
    extends Holds definition fields c where
  config : c.config = definition.config
  callbacks : c.callbacks = []
  found : ∀ field ∈ fields, c.summary.get? field.name =
    definition.problem? (Registration.upTo fields field) field

end Definition

/-! ## Evaluations of fields that ask no callback -/

theorem Rule.Compiled.immediate {compiled : Rule.Compiled} (hcallbacks : compiled.callbacks = []) :
    ∀ v ∈ compiled.validators, v.callback? = none := by
  intro v hmem
  have hnone := List.filterMap_eq_nil_iff.1 hcallbacks v hmem
  cases hcallback : v.callback? with
  | none => rfl
  | some callback =>
    rw [hcallback] at hnone
    cases hnone

/-- What a final evaluation finds wrong is the problem of the field. -/
theorem FieldState.problem?_evaluated {engine : Engine} {state : FieldState}
    {value : Option String} {others : String → Option String} {e : Evaluation}
    (heval : engine.evaluate state value others = .ok e) (hfinal : e.isAwaiting = false)
    (generation : Nat) :
    (state.evaluated value generation (.ok e)).problem? =
      if e.valid then none else some ⟨state.name, state.form, state.displayName, e.message⟩ := by
  obtain ⟨hvalid, hmessage⟩ := result_evaluated heval hfinal generation
  have hsetup := state.setup_evaluated value generation (.ok e)
  have hname := name_of_setup hsetup
  have hform : (state.evaluated value generation (.ok e)).form = state.form :=
    congr_setup (f := (·.form)) (fun _ => rfl) hsetup
  have hdisplay : (state.evaluated value generation (.ok e)).displayName = state.displayName :=
    congr_setup (f := displayName) (fun _ => rfl) hsetup
  rw [problem?, hvalid, SummaryEntry.ofField, hname, hform, hdisplay, hmessage]

/-- An evaluation leaves the forms, the values and the settings alone. -/
theorem Context.evaluate_registries {c : Context} {state : FieldState} {field : String}
    (hfind : c.fields.find? field = some state) (hname : state.name = field) (hfield : field ≠ "") :
    (c.evaluate field).1.forms = c.forms ∧ (c.evaluate field).1.values = c.values ∧
      (c.evaluate field).1.config = c.config ∧ (c.evaluate field).1.callbacks = c.callbacks := by
  rw [evaluate_eq c hfind hname hfield]
  simp only [launch, stored, put, depend, begun, note, invalidate, and_self]

namespace Definition

variable {definition : Definition} {fields : List Registration} {field : Registration}
  {c : Context} {state : FieldState} {compiled : Rule.Compiled}

/-- No evaluation fails: the messages of a definition replace English ones, but take
none away. -/
theorem not_fails (definition : Definition) : ¬ definition.start.engine.Fails :=
  Engine.not_fails_of_covers (Message.covers_withMessages definition.messages)

/-- A registered field is evaluated with the stored values. -/
theorem evaluate_spec (hengine : c.engine = definition.start.engine)
    (hvalues : ∀ name, c.values.find? name = Registration.valueIn fields name)
    (hname : field.name ≠ "") (hcompile : Rule.compile field.rules = .ok compiled)
    (hcallbacks : compiled.callbacks = [])
    (hfind : c.fields.find? field.name = some state)
    (hsetup : state.setup = (field.state compiled definition.config).setup)
    (hvalue : c.values.find? field.name = field.value) :
    (c.evaluate field.name).2 = .ok () ∧
      ∃ after, (c.evaluate field.name).1.fields.find? field.name = some after ∧
        after.setup = (field.state compiled definition.config).setup ∧
        after.problem? = definition.problem? fields field := by
  have hstate : state.name = field.name := FieldState.name_of_setup hsetup
  have himmediate : state.Immediate := by
    rw [FieldState.Immediate.congr hsetup]
    exact Rule.Compiled.immediate hcallbacks
  have hcompiled : (field.state compiled definition.config).Compiled :=
    ⟨compiled, hcompile, rfl, rfl⟩
  obtain ⟨e, he⟩ := Engine.exists_evaluate definition.not_fails hcompiled field.value
    (Registration.valueIn fields)
  have hagree : c.values.find? = Registration.valueIn fields := funext hvalues
  have heval : c.evaluation state = .ok e := by
    rw [Context.evaluation_eq, hstate, hvalue, hengine, FieldState.evaluate_congr hsetup, hagree]
    exact he
  have hafter := congrArg View.state (c.view_evaluate_self hfind hstate hname)
  rw [heval] at hafter
  refine ⟨?_, _, hafter, (state.setup_evaluated _ _ _).trans hsetup, ?_⟩
  · rw [Context.evaluate_eq c hfind hstate hname, heval]
    rfl
  · have hview : (c.view field.name).value = field.value := hvalue
    have hform : state.form = field.form :=
      FieldState.congr_setup (f := (·.form)) (fun _ => rfl) hsetup
    have hdisplay : state.displayName = field.options.friendlyName.getD field.name :=
      FieldState.congr_setup (f := FieldState.displayName) (fun _ => rfl) hsetup
    have hfound : definition.evaluation fields field = .ok e := by
      rw [evaluation, hcompile]
      exact he
    rw [← FieldState.evaluate_congr hsetup] at he
    rw [hview, FieldState.problem?_evaluated he (Engine.isAwaiting_of_immediate himmediate he),
      hstate, hform, hdisplay, problem?, hfound]

/-! ## One more field -/

/-- A field whose name is new is enrolled and evaluated. -/
theorem register_eq (hname : field.name ≠ "") (hcompile : Rule.compile field.rules = .ok compiled)
    (hcallbacks : compiled.callbacks = []) (hfind : c.fields.find? field.name = none) :
    c.register field = (c.enroll field compiled).evaluate field.name := by
  have hempty : field.name.isEmpty = false := by
    rw [Bool.eq_false_iff, ne_eq, String.isEmpty_iff]
    exact hname
  have hcompiles : c.compile field.rules = .ok compiled := by
    unfold Context.compile
    rw [hcompile]
    dsimp only [bind, Except.bind]
    rw [hcallbacks]
    rfl
  have hunregistered : c.isRegistered field.name = false := by
    rw [Context.isRegistered, Assoc.has, hfind]
    rfl
  unfold Context.register
  rw [if_neg (by simp [hempty]), hcompiles, hunregistered]
  rfl

theorem enroll_clock (c : Context) (field : Registration) (compiled : Rule.Compiled) :
    (c.enroll field compiled).clock = c.clock := by
  unfold Context.enroll
  cases field.form <;> cases field.value <;> rfl

theorem enroll_config (c : Context) (field : Registration) (compiled : Rule.Compiled) :
    (c.enroll field compiled).config = c.config ∧
      (c.enroll field compiled).callbacks = c.callbacks := by
  unfold Context.enroll
  cases field.form <;> cases field.value <;> exact ⟨rfl, rfl⟩

theorem mem_names_enroll (c : Context) (field : Registration) (compiled : Rule.Compiled)
    (hform : c.forms.formOf? field.name = none) (form : String) :
    form ∈ (c.enroll field compiled).forms.names ↔
      form ∈ c.forms.names ∨ field.form = some form := by
  have hforms : (c.enroll field compiled).forms =
      field.form.elim c.forms (c.forms.insert · field.name) := by
    unfold Context.enroll
    cases field.form <;> cases field.value <;> rfl
  rw [hforms]
  cases field.form with
  | none => simp
  | some home => simp [Forms.mem_names_insert hform, or_comm, eq_comm]

/-- What registering one more field does to a context. -/
structure Registers (definition : Definition) (fields : List Registration) (field : Registration)
    (compiled : Rule.Compiled) (c d : Context) : Prop where
  idle : d.clock.timers = []
  names : ∀ form, form ∈ d.forms.names ↔ form ∈ c.forms.names ∨ field.form = some form
  values : ∀ name, d.values.find? name = Registration.valueIn (fields ++ [field]) name
  config : d.config = definition.config
  callbacks : d.callbacks = []
  self : ∃ after, d.fields.find? field.name = some after ∧
    after.setup = (field.state compiled definition.config).setup ∧
    after.problem? = definition.problem? (fields ++ [field]) field
  others : ∀ {other}, field.name ≠ other →
    d.view other = { c.view other with issued := (c.view other).issued + 1 }

theorem Enrolled.values_enroll (henrolled : Enrolled definition fields c)
    (compiled : Rule.Compiled) (hfresh : ∀ other ∈ fields, other.name ≠ field.name)
    (name : String) : (c.enroll field compiled).values.find? name =
      Registration.valueIn (fields ++ [field]) name := by
  have habsent := henrolled.sound.absent (henrolled.absent field.name hfresh)
  rw [Registration.valueIn_append_singleton hfresh]
  split
  · rename_i heq
    rw [← heq]
    exact congrArg View.value (c.view_enroll_self field compiled habsent)
  · rename_i hne
    rw [← henrolled.values]
    exact congrArg View.value (c.view_enroll_of_ne field compiled hne)

/-- What is registered is evaluated with the values of the fields up to it. -/
theorem Enrolled.registers (henrolled : Enrolled definition fields c) (hname : field.name ≠ "")
    (hcompile : Rule.compile field.rules = .ok compiled) (hcallbacks : compiled.callbacks = [])
    (hfresh : ∀ other ∈ fields, other.name ≠ field.name) :
    (c.register field).2 = .ok () ∧
      Registers definition fields field compiled c (c.register field).1 := by
  have hfind := henrolled.absent field.name hfresh
  have habsent := henrolled.sound.absent hfind
  rw [register_eq hname hcompile hcallbacks hfind]
  -- the context in which the field has been enrolled, but not evaluated
  have hself := c.view_enroll_self field compiled habsent
  have hstate : (c.enroll field compiled).fields.find? field.name =
      some (field.state compiled definition.config) := by
    rw [← henrolled.config]
    exact congrArg View.state hself
  obtain ⟨hok, hafter⟩ := evaluate_spec ((c.engine_enroll field compiled).trans henrolled.engine)
    (henrolled.values_enroll compiled hfresh) hname hcompile hcallbacks hstate rfl
    (congrArg View.value hself)
  obtain ⟨hforms, hvalues, hconfig, hknown⟩ := Context.evaluate_registries hstate rfl hname
  obtain ⟨hconfig', hknown'⟩ := enroll_config c field compiled
  refine ⟨hok, ?_, fun form => ?_, fun name => ?_, ?_, ?_, hafter, fun {other} hne => ?_⟩
  · rw [Context.evaluate_clock_eq, enroll_clock, henrolled.idle]
  · rw [hforms, mem_names_enroll c field compiled habsent.form form]
  · rw [hvalues, henrolled.values_enroll compiled hfresh]
  · rw [hconfig, hconfig', henrolled.config]
  · rw [hknown, hknown', henrolled.callbacks]
  · rw [Context.view_evaluate_of_ne _ hstate rfl hname hne, c.view_enroll_of_ne field compiled hne]

/-- One more field is enrolled. -/
theorem Enrolled.register (henrolled : Enrolled definition fields c) (hname : field.name ≠ "")
    (himmediate : field.Immediate) (hfresh : ∀ other ∈ fields, other.name ≠ field.name) :
    (c.register field).2 = .ok () ∧
      Enrolled definition (fields ++ [field]) (c.register field).1 := by
  obtain ⟨compiled, hcompile, hcallbacks⟩ := himmediate
  obtain ⟨hok, hregisters⟩ := henrolled.registers hname hcompile hcallbacks hfresh
  obtain ⟨after, hafter, hsetup, hproblem⟩ := hregisters.self
  have hevolves := Context.evolves_register henrolled.sound field
  have hsound := hevolves.sound henrolled.sound
  refine ⟨hok, ⟨⟨hsound, hevolves.engine.trans henrolled.engine, hregisters.idle, fun form => ?_,
    hregisters.values, fun other hmem => ?_, fun name hnot => ?_⟩, hregisters.config,
    hregisters.callbacks, fun other hmem => ?_⟩⟩
  · rw [hregisters.names, henrolled.names]
    simp only [List.mem_append, List.mem_singleton, or_and_right, exists_or, exists_eq_left]
  · rcases List.mem_append.1 hmem with hmem | hmem
    · obtain ⟨compiled, state, hcompile, hcallbacks, hstate, hsetup⟩ := henrolled.stored other hmem
      refine ⟨compiled, state, hcompile, hcallbacks, ?_, hsetup⟩
      rw [← hstate]
      exact congrArg View.state (hregisters.others (Ne.symm (hfresh other hmem)))
    · obtain rfl := List.mem_singleton.1 hmem
      exact ⟨compiled, after, hcompile, hcallbacks, hafter, hsetup⟩
  · have hne : field.name ≠ name := hnot field (by simp)
    refine (congrArg View.state (hregisters.others hne)).trans
      (henrolled.absent name fun other hmem => ?_)
    exact hnot other (List.mem_append_left _ hmem)
  · rcases List.mem_append.1 hmem with hmem | hmem
    · rw [Registration.upTo_append_of_mem hmem, ← henrolled.found other hmem]
      exact congrArg View.entry (hregisters.others (Ne.symm (hfresh other hmem)))
    · obtain rfl := List.mem_singleton.1 hmem
      rw [Registration.upTo_append_singleton_self hfresh, ← hproblem]
      exact (hsound.present hafter).entry

theorem enroll_cons {rest : List Registration} (hok : (c.register field).2 = .ok ()) :
    Definition.enroll c (field :: rest) = Definition.enroll (c.register field).1 rest := by
  rw [Definition.enroll]
  generalize c.register field = registered at hok
  obtain ⟨after, result⟩ := registered
  cases hok
  rfl

/-- The names of fields that are listed later are new. -/
theorem fresh_of_nodup {rest : List Registration}
    (hnames : ((fields ++ field :: rest).map (·.name)).Nodup) :
    ∀ other ∈ fields, other.name ≠ field.name := by
  intro other hmem heq
  rw [List.map_append, List.nodup_append] at hnames
  exact hnames.2.2 other.name (List.mem_map_of_mem hmem) field.name
    (List.mem_map_of_mem List.mem_cons_self) heq

/-- The fields of a definition are registered one after the other. -/
theorem Enrolled.enroll (rest : List Registration) :
    ∀ {fields : List Registration} {c : Context}, Enrolled definition fields c →
      ((fields ++ rest).map (·.name)).Nodup →
      (∀ field ∈ rest, field.name ≠ "") → (∀ field ∈ rest, field.Immediate) →
      ∃ d, Definition.enroll c rest = .ok d ∧ Enrolled definition (fields ++ rest) d := by
  induction rest with
  | nil =>
    intro fields c henrolled _ _ _
    rw [List.append_nil]
    exact ⟨c, rfl, henrolled⟩
  | cons field rest ih =>
    intro fields c henrolled hnames hnamed hrules
    obtain ⟨hok, hregistered⟩ := henrolled.register (hnamed field List.mem_cons_self)
      (hrules field List.mem_cons_self) (fresh_of_nodup hnames)
    rw [enroll_cons hok]
    rw [List.append_cons] at hnames ⊢
    exact ih hregistered hnames (fun other hmem => hnamed other (List.mem_cons_of_mem _ hmem))
      fun other hmem => hrules other (List.mem_cons_of_mem _ hmem)

/-- A field without a name is refused, whatever is listed before it. -/
theorem Enrolled.enroll_unnamed (rest : List Registration) :
    ∀ {fields : List Registration} {c : Context}, Enrolled definition fields c →
      ((fields ++ rest).map (·.name)).Nodup → (∀ field ∈ rest, field.Immediate) →
      (∃ field ∈ rest, field.name = "") → Definition.enroll c rest = .error .missingFieldName := by
  induction rest with
  | nil =>
    rintro fields c - - - ⟨field, hmem, -⟩
    cases hmem
  | cons field rest ih =>
    rintro fields c henrolled hnames hrules ⟨unnamed, hmem, hempty⟩
    by_cases hname : field.name = ""
    · have hrefused : c.register field = (c, .error .missingFieldName) := by
        unfold Context.register
        rw [hname]
        rfl
      rw [Definition.enroll, hrefused]
    · obtain ⟨hok, hregistered⟩ := henrolled.register hname (hrules field List.mem_cons_self)
        (fresh_of_nodup hnames)
      rw [enroll_cons hok]
      rw [List.append_cons] at hnames
      refine ih hregistered hnames (fun other hmem => hrules other (List.mem_cons_of_mem _ hmem))
        ⟨unnamed, ?_, hempty⟩
      rcases List.mem_cons.1 hmem with rfl | hmem
      · exact absurd hempty hname
      · exact hmem

theorem enrolled_start (definition : Definition) : Enrolled definition [] definition.start where
  sound := .start _ _ _
  engine := rfl
  idle := rfl
  names form := by simp [start, Context.start, Forms.names]
  values name := rfl
  stored field hmem := absurd hmem List.not_mem_nil
  absent name _ := rfl
  config := rfl
  callbacks := rfl
  found field hmem := absurd hmem List.not_mem_nil

/-- The names of the fields are different, and their rules compile and ask no
callback. -/
structure Plain (definition : Definition) : Prop where
  names : (definition.fields.map (·.name)).Nodup
  rules : ∀ field ∈ definition.fields, field.Immediate

theorem exists_context (hplain : definition.Plain)
    (hnamed : ∀ field ∈ definition.fields, field.name ≠ "") :
    ∃ c, definition.context = .ok c ∧ Enrolled definition definition.fields c :=
  (enrolled_start definition).enroll definition.fields hplain.names hnamed hplain.rules

theorem context_unnamed (hplain : definition.Plain)
    (hunnamed : ∃ field ∈ definition.fields, field.name = "") :
    definition.context = .error .missingFieldName :=
  (enrolled_start definition).enroll_unnamed definition.fields hplain.names hplain.rules hunnamed

end Definition

end FieldRules
