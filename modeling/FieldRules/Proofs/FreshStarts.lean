import FieldRules.Proofs.RepeatedFields

/-!
# A reset is a fresh start

When a form is reset and its values are taken away, every field of it that is not disabled
is as if it had just been registered, without a value, with the rules and settings that it
has.  Hence to register it so again changes nothing but the operators of dependencies that
no evaluation of the field without a value gets to.

* `Context.Unaltered`, `Context.UnalteredAtOnce`: what does not change, and what becomes of an
  operator that does.
* `Context.life_register_of_resetForm`: the life of the field after both, but for its
  dependencies.
* `Context.unaltered_of_resetForm`: nothing changes right after the reset, and as long as
  nothing has become of the field.
* `Context.not_forall_edges_unaltered`: an operator does change.
-/

namespace FieldRules

variable {registration : Registration} {compiled : Rule.Compiled} {config : EngineConfig}

namespace Context

variable {c d later : Context} {field form : String} {state other : FieldState}

/-! ## What does not change -/

/-- Nothing that can be seen of a field is different, and no evaluation of it waits.  It
depends on the same fields, by the same operators.  Only if the rules compare it with another
field by several operators, the one that is stored may have become the one that a
registration and an evaluation look at last. -/
structure Unaltered (field : String) (c d : Context) : Prop where
  report : d.report? field = c.report? field
  lastValue : (d.fields.find? field).map (·.lastValue) = (c.fields.find? field).map (·.lastValue)
  idle : c.clock.isPending field = false ∧ d.clock.isPending field = false
  entry : d.summary.get? field = c.summary.get? field
  sources : (d.dependencies.sourcesOf field).Perm (c.dependencies.sourcesOf field)
  operator : ∀ source,
    d.dependencies.operator? field source = c.dependencies.operator? field source ∨
      ∃ state, c.fields.find? field = some state ∧ ¬ state.Univocal source ∧
        d.dependencies.operator? field source =
          lastOperator? (state.targets ++ c.compared field) source

/-- Moreover, an operator is the same if an evaluation of the field gets to a rule that
compares with the field in question. -/
structure UnalteredAtOnce (field : String) (c d : Context) : Prop
    extends c.Unaltered field d where
  compared : ∀ target ∈ c.compared field,
    d.dependencies.operator? field target.field = c.dependencies.operator? field target.field

theorem UnalteredAtOnce.refl (hidle : c.clock.isPending field = false) :
    c.UnalteredAtOnce field c where
  report := rfl
  lastValue := rfl
  idle := ⟨hidle, hidle⟩
  entry := rfl
  sources := .refl _
  operator _ := .inl rfl
  compared _ _ := rfl

/-- All that can be seen of a field is in its life. -/
theorem unaltered_of_life (hc : c.Reachable) (hd : d.Reachable)
    (hfind : c.fields.find? field = some state)
    (hstate : (d.life field).state = (c.life field).state)
    (hvalue : (d.life field).value = (c.life field).value)
    (hidle : c.clock.isPending field = false ∧ d.clock.isPending field = false)
    (hoperator : ∀ source, d.dependencies.operator? field source =
      lastOperator? (state.targets ++ c.compared field) source) :
    c.Unaltered field d := by
  obtain ⟨other, hother, hsame⟩ : ∃ other, d.fields.find? field = some other ∧
      other.unnumbered = state.unnumbered := by
    rw [state_life hfind] at hstate
    exact Option.map_eq_some_iff.1 hstate
  have hsetup : other.setup = state.setup := by
    have hunnumbered : other.unnumbered.setup = state.unnumbered.setup := by rw [hsame]
    exact hunnumbered
  have htargets := FieldState.targets_of_setup hsetup
  refine ⟨?_, ?_, hidle, ?_, hc.wired.sourcesOf_perm hd.wired hfind hother htargets, ?_⟩
  · have hreport : ∀ {e : Context}, e.Reachable → e.report? field = (e.life field).outlook.report :=
      fun he => congrArg Outlook.report (outlook_life he.timely.sound field).symm
    rw [hreport hc, hreport hd]
    unfold Life.outlook
    rw [hstate, hvalue]
  · rw [hfind, hother]
    exact congrArg (some ·.lastValue) hsame
  · have hentryc : c.summary.get? field = state.problem? := (hc.sound.present hfind).entry
    have hentryd : d.summary.get? field = other.problem? := (hd.sound.present hother).entry
    rw [hentryc, hentryd, ← state.problem?_unnumbered, ← hsame, other.problem?_unnumbered]
  · intro source
    by_cases hunivocal : state.Univocal source
    · exact .inl (hc.wired.operator?_eq_of_univocal hd.wired hfind hother htargets hunivocal)
    · exact .inr ⟨state, hfind, hunivocal, hoperator source⟩

/-! ## A registration after a reset -/

theorem leads_run_resetForm (c : Context) (form : String) (options : ResetOptions)
    (operations : List Operation) :
    (c.resetForm form options).1.Leads (c.run (.resetForm form options :: operations)) :=
  (leads_settle _).trans (leads_run _ operations)

/-- What evaluations leave alone tells the setup of the field. -/
theorem exists_state_of_ground
    (hground : (d.life field).ground.state = (c.life field).ground.state)
    (hfind : c.fields.find? field = some state) :
    ∃ other, d.fields.find? field = some other ∧ other.setup = state.setup := by
  change Option.map _ (Option.map _ (d.fields.find? field)) =
    Option.map _ (Option.map _ (c.fields.find? field)) at hground
  rw [hfind, Option.map_map] at hground
  exact Option.map_eq_some_iff.1 hground

/-- But for the values that are gone, a reset leaves alone what evaluations leave alone. -/
theorem ground_resetForm (hreach : c.Reachable) (hfine : ¬ c.engine.Fails)
    (hmem : field ∈ c.forms.fields form) :
    ((c.resetForm form { emptyValues := true }).1.life field).ground =
      ((c.life field).emptied (c.forms.fields form)).ground := by
  rw [life_resetForm hreach hfine hmem, Life.ground_evaluated, Life.ground_renewed]

theorem exists_state_resetForm (hreach : c.Reachable) (hfine : ¬ c.engine.Fails)
    (hmem : field ∈ c.forms.fields form) :
    ∃ state, (c.resetForm form { emptyValues := true }).1.fields.find? field = some state := by
  obtain ⟨old, hold⟩ := hreach.sound.exists_state_of_mem hmem
  have hground := congrArg Life.state (ground_resetForm hreach hfine hmem)
  obtain ⟨state, hfind, -⟩ := exists_state_of_ground hground hold
  exact ⟨state, hfind⟩

theorem Reachable.compared_life (hreach : c.Reachable) (field : String) :
    (c.life field).compared = c.compared field :=
  Context.compared_life fun _ hfind => (hreach.sound.present hfind).name

/-- The evaluation of a reset leaves the operators of the comparisons that it gets to. -/
theorem operator?_resetForm (hreach : c.Reachable) (hfine : ¬ c.engine.Fails)
    (hmem : field ∈ c.forms.fields form) (source : String) :
    (c.resetForm form { emptyValues := true }).1.dependencies.operator? field source =
      (lastOperator? ((c.resetForm form { emptyValues := true }).1.compared field) source).or
        (c.dependencies.operator? field source) := by
  have hreset : (c.resetForm form { emptyValues := true }).1.Reachable := hreach.resetForm form _
  rw [← operator?_life, ← hreset.compared_life, life_resetForm hreach hfine hmem,
    Life.operator?_evaluated, Life.compared_evaluated]
  exact congrArg (Option.or _) (operator?_life c field source)

/-- The life of a field of a form that has been reset is the same again when the field
is registered again, as long as only evaluations and replies have come in between. -/
theorem life_register_of_resetForm (hreach : c.Reachable)
    (henglish : c.translator = Message.english.translator) (hmem : field ∈ c.forms.fields form)
    (hlater : later.Reachable)
    (hground : (later.life field).ground =
      { ((c.resetForm form { emptyValues := true }).1.life field).ground with
        callbacks := later.callbacks.find? })
    (hfind : later.fields.find? field = some state) (henabled : state.disabled = false)
    (hrepeats : registration.Repeats state c.config)
    (hcompile : later.compile registration.rules = .ok compiled) :
    ((later.register registration).1.life field).edgeless =
        { ((c.resetForm form { emptyValues := true }).1.life field).edgeless with
          callbacks := later.callbacks.find? } ∧
      ∀ source, (later.register registration).1.dependencies.operator? field source =
        lastOperator? (state.targets ++ later.compared field) source := by
  have hfine : ¬ c.engine.Fails := Engine.not_fails_of_english henglish
  have hpresent := hlater.sound.present hfind
  have hname : registration.name = field := hrepeats.name.trans hpresent.name
  subst hname
  obtain ⟨old, hold⟩ := hreach.sound.exists_state_of_mem hmem
  rw [ground_resetForm hreach hfine hmem] at hground
  have hconfig : later.config = c.config := congrArg Life.config hground
  have htranslator : later.translator = c.translator := congrArg Life.translator hground
  have hstate : (later.life registration.name).state = some state.unnumbered := state_life hfind
  have hvalue : (later.life registration.name).value = none := by
    have hvalues := congrArg Life.values hground
    have hgone := congrFun hvalues registration.name
    exact hgone.trans (if_pos hmem)
  have hcancelled := (hlater.fresh (htranslator.trans henglish) hfind).cancelled_iff
  obtain ⟨compiled', hcompile', hvalidators, hrequired⟩ := hpresent.compiled
  obtain rfl : compiled = compiled' := by
    have hok := compile_eq_ok hcompile
    rw [hrepeats.rules, hcompile'] at hok
    exact (Except.ok.inj hok).symm
  have hregister : (later.life registration.name).compile registration.rules = .ok compiled :=
    hcompile
  have hlaterRepeats : registration.Repeats state.unnumbered later.config := by
    rw [hconfig]
    exact hrepeats.of_setup rfl
  obtain ⟨hregistered, hoperator⟩ := Life.registered_of_repeats hpresent.named hregister hstate
    hvalue hlaterRepeats henabled hcancelled hvalidators.symm hrequired.symm
  have hsame : state.status = .cancelled ↔ old.status = .cancelled := by
    have hstates := congrArg Life.state hground
    obtain ⟨same, hsame, hsetup⟩ := exists_state_of_ground hstates hold
    obtain rfl := Option.some.inj (hsame.symm.trans hfind)
    have hidle : same.Idle ↔ old.Idle := FieldState.Idle.congr hsetup
    exact hcancelled.trans (hidle.trans (hreach.fresh henglish hold).cancelled_iff.symm)
  have hbefore : ((c.life registration.name).emptied (c.forms.fields form)).state =
      some old.unnumbered := state_life hold
  have hagain := Life.evaluated_renewed_of_ground hbefore hstate hground hsame
  refine ⟨?_, fun source => ?_⟩
  · rw [life_register hlater, hregistered, hagain, life_resetForm hreach hfine hmem]
    rfl
  · rw [← operator?_life, life_register hlater, hoperator, hlater.compared_life]
    rfl

/-- No evaluation of a field waits when its form has been reset. -/
theorem idle_resetForm (hreach : c.Reachable) (hfine : ¬ c.engine.Fails)
    (hmem : field ∈ c.forms.fields form) :
    (c.resetForm form { emptyValues := true }).1.clock.isPending field = false := by
  have hreset : (c.resetForm form { emptyValues := true }).1.Reachable := hreach.resetForm form _
  have htimers : ((c.resetForm form { emptyValues := true }).1.life field).timers = [] := by
    rw [life_resetForm hreach hfine hmem]
    unfold Life.evaluated
    split <;> rfl
  rw [Clock.isPending, List.any_eq_false]
  intro timer hmem hkey
  have hevent := hreset.timely.sound.key_eq timer hmem
  cases hwhat : timer.event with
  | evaluate other =>
    rw [hwhat, of_decide_eq_true hkey] at hevent
    cases hevent
    have hunseen := List.filter_eq_nil_iff.1 (List.map_eq_nil_iff.1 htimers) timer hmem
    rw [hwhat] at hunseen
    exact hunseen (decide_eq_true rfl)
  | reply inquiry results =>
    rw [hwhat, of_decide_eq_true hkey] at hevent
    cases hevent

/-- A field that is there can be registered with its own rules, unless a callback that
they name has been taken away. -/
theorem answer_register_of_repeats (hlater : later.Reachable)
    (henglish : later.translator = Message.english.translator)
    (hfind : later.fields.find? field = some state) (hrepeats : registration.Repeats state config) :
    (later.register registration).2 = .ok () ∨
      ∃ rule callback, later.callbacks.has callback = false ∧
        (later.register registration).2 = .error (.missingCallback rule callback) := by
  have hpresent := hlater.sound.present hfind
  have hnamed : registration.name ≠ "" := by
    rw [hrepeats.name, hpresent.name]
    exact hpresent.named
  obtain ⟨compiled, hcompile, -, -⟩ := hpresent.compiled
  rw [← hrepeats.rules] at hcompile
  rcases later.register_cases registration with
    ⟨e, hrefused, hreason⟩ | ⟨compiled', -, hok, haccepted⟩
  · have herror := hreason.resolve_left hnamed
    unfold compile at herror
    rw [hcompile] at herror
    dsimp only [bind, Except.bind] at herror
    split at herror
    · next rule callback hmissing =>
      cases herror
      refine .inr ⟨rule, callback, by simpa using List.find?_some hmissing, ?_⟩
      rw [hrefused]
    · cases herror
  · have hfine :
        ¬ ((later.vacated registration.name).enroll registration compiled').engine.Fails := by
      have hengine : (later.vacated registration.name).engine = later.engine := by
        unfold vacated
        split
        · exact engine_remove later registration.name
        · rfl
      rw [engine_enroll, hengine]
      exact Engine.not_fails_of_english henglish
    have hfound := find?_fields_enroll (later.vacated registration.name) registration compiled'
    have hcompiled : (registration.state compiled'
        (later.vacated registration.name).config).Compiled :=
      ⟨compiled', compile_eq_ok hok, rfl, rfl⟩
    obtain ⟨e, he⟩ := Engine.exists_evaluate hfine hcompiled _ _
    rw [haccepted, evaluate_eq _ hfound rfl hnamed]
    unfold evaluation
    rw [he]
    exact .inl rfl

/-- Nothing has become of the field: it is as it was, and so are all values, and no
evaluation of it waits unless one has before. -/
structure Still (field : String) (c later : Context) : Prop where
  leads : c.Leads later
  state : later.fields.find? field = c.fields.find? field
  values : ∀ name, later.values.find? name = c.values.find? name
  waiting : later.clock.isPending field = c.clock.isPending field

theorem Still.refl : c.Still field c :=
  ⟨.refl, rfl, fun _ => rfl, rfl⟩

theorem Still.ground (hstill : c.Still field later) (hsound : c.Sound) :
    (later.life field).ground =
      { (c.life field).ground with callbacks := later.callbacks.find? } := by
  obtain ⟨hconfig, htranslator⟩ := settings_of_leads hsound hstill.leads
  have hvalues : later.values.find? = c.values.find? := funext hstill.values
  ext1
  case config => exact hconfig
  case translator => exact htranslator
  case values => exact hvalues
  case state =>
    change Option.map _ (Option.map _ (later.fields.find? field)) =
      Option.map _ (Option.map _ (c.fields.find? field))
    rw [hstill.state]
  all_goals rfl

/-- As long as nothing has become of a field that has been reset, it is not altered by
being registered again. -/
theorem unaltered_register_of_still (hreach : c.Reachable)
    (henglish : c.translator = Message.english.translator) (hmem : field ∈ c.forms.fields form)
    (hstill : (c.resetForm form { emptyValues := true }).1.Still field later)
    (hfind : later.fields.find? field = some state) (henabled : state.disabled = false)
    (hrepeats : registration.Repeats state c.config) :
    later.Unaltered field (later.register registration).1 := by
  have hfine : ¬ c.engine.Fails := Engine.not_fails_of_english henglish
  have hreset : (c.resetForm form { emptyValues := true }).1.Reachable := hreach.resetForm form _
  have hlater : later.Reachable := hreset.leads hstill.leads
  have hidle : later.clock.isPending field = false :=
    hstill.waiting.trans (idle_resetForm hreach hfine hmem)
  have hground := hstill.ground hreset.sound
  have hpresent := hlater.sound.present hfind
  obtain rfl : registration.name = field := hrepeats.name.trans hpresent.name
  rcases later.register_cases registration with ⟨e, hrefused, -⟩ | ⟨compiled, -, hcompile, -⟩
  · rw [hrefused]
    exact (UnalteredAtOnce.refl hidle).toUnaltered
  · obtain ⟨hlife, hoperator⟩ := life_register_of_resetForm hreach henglish hmem hlater hground
      hfind henabled hrepeats hcompile
    have hstate := congrArg Life.state hlife
    have hvalues := congrArg Life.values hlife
    have hvalues' := congrArg Life.values hground
    refine unaltered_of_life hlater (hlater.register registration) hfind ?_ ?_
      ⟨hidle, (past_register hlater hcompile).2⟩ hoperator
    · refine hstate.trans ?_
      exact congrArg (Option.map _) hstill.state.symm
    · exact congrFun (hvalues.trans hvalues'.symm) registration.name

/-- Right after the reset, the operators of the comparisons that an evaluation gets to are
left alone as well. -/
theorem unalteredAtOnce_register (hreach : c.Reachable)
    (henglish : c.translator = Message.english.translator) (hmem : field ∈ c.forms.fields form)
    (hfind : (c.resetForm form { emptyValues := true }).1.fields.find? field = some state)
    (henabled : state.disabled = false) (hrepeats : registration.Repeats state c.config) :
    (c.resetForm form { emptyValues := true }).1.UnalteredAtOnce field
      ((c.resetForm form { emptyValues := true }).1.register registration).1 := by
  have hfine : ¬ c.engine.Fails := Engine.not_fails_of_english henglish
  have hreset : (c.resetForm form { emptyValues := true }).1.Reachable := hreach.resetForm form _
  refine ⟨unaltered_register_of_still hreach henglish hmem .refl hfind henabled hrepeats, ?_⟩
  intro target htarget
  rcases (c.resetForm form { emptyValues := true }).1.register_cases registration with
    ⟨e, hrefused, -⟩ | ⟨compiled, -, hcompile, -⟩
  · rw [hrefused]
  · have hstill : (c.resetForm form { emptyValues := true }).1.Still field
        (c.resetForm form { emptyValues := true }).1 := .refl
    have hground := hstill.ground hreset.sound
    obtain ⟨-, hoperator⟩ := life_register_of_resetForm hreach henglish hmem hreset hground
      hfind henabled hrepeats hcompile
    rw [hoperator, operator?_resetForm hreach hfine hmem, lastOperator?_append_of_mem htarget]

theorem Reachable.operator?_settle (hreach : c.Reachable) (field source : String) :
    c.settle.dependencies.operator? field source = c.dependencies.operator? field source := by
  rw [← operator?_life, life_settle hreach, Life.operator?_settled, operator?_life]

/-- When all callbacks have been asked that are to be asked without delay, it is not
altered either, and what is shown is the same again when they have been asked again. -/
theorem unaltered_step_register (hreach : c.Reachable)
    (henglish : c.translator = Message.english.translator) (hmem : field ∈ c.forms.fields form)
    (hfind : (c.resetForm form { emptyValues := true }).1.fields.find? field = some state)
    (henabled : state.disabled = false) (hrepeats : registration.Repeats state c.config) :
    let settled := (c.resetForm form { emptyValues := true }).1.settle
    settled.UnalteredAtOnce field (settled.step (.register registration)).1 := by
  intro settled
  have hfine : ¬ c.engine.Fails := Engine.not_fails_of_english henglish
  have hreset : (c.resetForm form { emptyValues := true }).1.Reachable := hreach.resetForm form _
  have hsettled : settled.Reachable := hreset.leads (leads_settle _)
  have hidle : settled.clock.isPending field = false :=
    (isPending_settle _ field).trans (idle_resetForm hreach hfine hmem)
  -- replies that come at once leave the setup of the field
  have hlife : settled.life field =
      ((c.resetForm form { emptyValues := true }).1.life field).settled := life_settle hreset
  have hground : (settled.life field).ground =
      ((c.resetForm form { emptyValues := true }).1.life field).ground := by
    rw [hlife, Life.ground_settled]
  have hcallbacks : settled.callbacks.find? =
      (c.resetForm form { emptyValues := true }).1.callbacks.find? :=
    congrArg Life.callbacks hground
  obtain ⟨other, hother, hsetup⟩ : ∃ other, settled.fields.find? field = some other ∧
      other.setup = state.setup :=
    exists_state_of_ground (congrArg Life.state hground) hfind
  have henabled' : other.disabled = false :=
    (FieldState.congr_setup (f := (·.disabled)) (fun _ => rfl) hsetup).trans henabled
  have hrepeats' := hrepeats.of_setup hsetup
  have hpresent := hsettled.sound.present hother
  obtain rfl : registration.name = field := hrepeats'.name.trans hpresent.name
  change settled.UnalteredAtOnce registration.name (settled.register registration).1.settle
  rcases settled.register_cases registration with ⟨e, hrefused, -⟩ | ⟨compiled, -, hcompile, -⟩
  · rw [hrefused, settle_of_ready (ready_settle _)]
    exact .refl hidle
  · have hregister : (settled.register registration).1.Reachable := hsettled.register registration
    have hground' : (settled.life registration.name).ground =
        { ((c.resetForm form { emptyValues := true }).1.life registration.name).ground with
          callbacks := settled.callbacks.find? } := by
      rw [hground, hcallbacks]
      rfl
    obtain ⟨hagain, hregistered⟩ := life_register_of_resetForm hreach henglish hmem hsettled
      hground' hother henabled' hrepeats' hcompile
    have hsame : ((settled.register registration).1.settle.life registration.name).edgeless =
        (settled.life registration.name).edgeless := by
      rw [life_settle hregister, hlife, ← Life.edgeless_settled, ← Life.edgeless_settled, hagain,
        hcallbacks]
      rfl
    have hstate := congrArg Life.state hsame
    have hvalues := congrArg Life.values hsame
    have hoperator : ∀ source,
        (settled.register registration).1.settle.dependencies.operator? registration.name source =
          lastOperator? (other.targets ++ settled.compared registration.name) source :=
      fun source => (hregister.operator?_settle _ source).trans (hregistered source)
    refine ⟨unaltered_of_life hsettled (hregister.leads (leads_settle _)) hother hstate
      (congrFun hvalues registration.name) ⟨hidle, ?_⟩ hoperator, ?_⟩
    · rw [isPending_settle]
      exact (past_register hsettled hcompile).2
    · intro target htarget
      have hcompared : settled.compared registration.name =
          (c.resetForm form { emptyValues := true }).1.compared registration.name := by
        rw [← hsettled.compared_life, ← hreset.compared_life]
        exact Life.compared_of_ground hground'
      rw [hoperator, hreset.operator?_settle, operator?_resetForm hreach hfine hmem, ← hcompared,
        lastOperator?_append_of_mem htarget]

/-- When a form has been reset without its values, it makes no difference to a field of it
that is not disabled to be registered again, without a value and with the rules and
settings that it has: not at once, not later, as long as nothing has become of it and no
value has changed, even if its callbacks have not replied yet, and not when the callbacks
that reply without delay have replied, once to the reset and once more to the
registration.  Only the operator of a dependency may change, if the rules compare with one
field by several operators and an evaluation without a value gets to none of them.  The
registration is accepted unless a callback of the rules is gone. -/
theorem unaltered_of_resetForm (hreach : c.Reachable)
    (henglish : c.translator = Message.english.translator) (hmem : field ∈ c.forms.fields form) :
    let reset := (c.resetForm form { emptyValues := true }).1
    ∃ state, reset.fields.find? field = some state ∧
      (∃ registration : Registration, registration.Repeats state c.config) ∧
      (state.disabled = false → ∀ registration : Registration,
        registration.Repeats state c.config →
          reset.UnalteredAtOnce field (reset.register registration).1 ∧
          (∀ later, reset.Still field later →
            later.Unaltered field (later.register registration).1 ∧
            ((later.register registration).2 = .ok () ∨
              ∃ rule callback, later.callbacks.has callback = false ∧
                (later.register registration).2 = .error (.missingCallback rule callback))) ∧
          (c.run [.resetForm form { emptyValues := true }]).UnalteredAtOnce field
            (c.run [.resetForm form { emptyValues := true }, .register registration])) := by
  intro reset
  have hfine : ¬ c.engine.Fails := Engine.not_fails_of_english henglish
  have hreset : reset.Reachable := hreach.resetForm form _
  obtain ⟨state, hfind⟩ := exists_state_resetForm hreach hfine hmem
  refine ⟨state, hfind, state.exists_repeats c.config, fun henabled registration hrepeats =>
    ⟨?_, fun later hstill => ⟨?_, ?_⟩, ?_⟩⟩
  · exact unalteredAtOnce_register hreach henglish hmem hfind henabled hrepeats
  · exact unaltered_register_of_still hreach henglish hmem hstill (hstill.state.trans hfind)
      henabled hrepeats
  · have hlater : reset.Leads later := hstill.leads
    have htranslator := (settings_of_leads hreset.sound hlater).2
    have hsame : reset.translator = c.translator :=
      congrArg Engine.translator (evolves_resetForm hreach.sound form _).engine
    exact answer_register_of_repeats (hreset.leads hlater)
      (htranslator.trans (hsame.trans henglish)) (hstill.state.trans hfind) hrepeats
  · exact unaltered_step_register hreach henglish hmem hfind henabled hrepeats

/-- A field that is compared with another one of its form in two ways, and that asks a
callback which takes its time, waits for the reply when the form is reset, and when twenty
milliseconds have gone by; to register it again makes no difference. -/
theorem unaltered_of_resetForm_awaiting :
    let c := (start Message.english.translator { preValidate := true }
        [("free", ⟨fun _ => ⟨50, .ok ⟨true, none⟩⟩⟩)]).run
      [.register
        { name := "pass", rules := "min_len:3", form := some "form", value := some "open" },
       .register
        { name := "copy", rules := "match:pass|different:pass|remote:free", form := some "form",
          value := some "open", options := { validateOnEmpty := some true, debounce := some 300 } },
       .setValue "copy" "shut"]
    let reset := (c.resetForm "form" { emptyValues := true }).1
    let later := c.run [.resetForm "form" { emptyValues := true }, .advance 20]
    let registration : Registration :=
      { name := "copy", rules := "match:pass|different:pass|remote:free", form := some "form",
        options := { validateOnEmpty := some true, debounce := some 300 } }
    "copy" ∈ c.forms.fields "form" ∧ c.clock.isPending "copy" = true ∧
      (reset.report? "copy").map (·.status) = some .awaitingRemote ∧
      reset.UnalteredAtOnce "copy" (reset.register registration).1 ∧
      later.Unaltered "copy" (later.register registration).1 ∧
      (c.run [.resetForm "form" { emptyValues := true }]).UnalteredAtOnce "copy"
        (c.run [.resetForm "form" { emptyValues := true }, .register registration]) := by
  intro c reset later registration
  have hleads : Leads _ c := leads_run _ _
  have hreach : c.Reachable := (Reachable.start _ _ _).leads hleads
  have henglish : c.translator = Message.english.translator :=
    congrArg Engine.translator (hleads.evolves (.start _ _ _)).engine
  have hmem : "copy" ∈ c.forms.fields "form" := by decide +kernel
  obtain ⟨state, hfind, -, hall⟩ := unaltered_of_resetForm hreach henglish hmem
  have htold : (reset.fields.find? "copy").all (fun state =>
      decide (state.disabled = false ∧ registration.Repeats state c.config)) = true := by
    decide +kernel
  rw [show reset.fields.find? "copy" = some state from hfind] at htold
  obtain ⟨henabled, hrepeats⟩ := of_decide_eq_true htold
  obtain ⟨hreset, hstill, hsettled⟩ := hall henabled registration hrepeats
  have hlater : reset.Still "copy" later := by
    have hreset : reset.Leads later := leads_run_resetForm c "form" _ [.advance 20]
    have hvalues : later.values = reset.values := by decide +kernel
    exact ⟨hreset, by decide +kernel, fun name => by rw [hvalues], by decide +kernel⟩
  exact ⟨hmem, by decide +kernel, by decide +kernel, hreset, (hstill later hlater).1, hsettled⟩

/-- A chain of which one rule has to pass has got to its first comparison only when its form
is reset, and a registration looks at the second one as well. -/
theorem not_forall_edges_unaltered :
    ¬ ∀ (c : Context) (field form : String), c.Reachable →
      c.translator = Message.english.translator → field ∈ c.forms.fields form →
      let reset := (c.resetForm form { emptyValues := true }).1
      ∀ state, reset.fields.find? field = some state → state.disabled = false →
        ∀ registration : Registration, registration.Repeats state c.config →
          ((reset.register registration).1.dependencies.edges.filter (·.dependent = field)).Perm
            (reset.dependencies.edges.filter (·.dependent = field)) := by
  intro hall
  let options : FieldOptions := { requirement := some .one }
  let c := (start Message.english.translator {} []).run
    [.register { name := "word", rules := "alpha", value := some "owl" },
     .register
      { name := "copy", rules := "match:word|different:word", form := some "form",
        value := some "owl", options }]
  let reset := (c.resetForm "form" { emptyValues := true }).1
  let registration : Registration :=
    { name := "copy", rules := "match:word|different:word", form := some "form", options }
  have hleads : Leads _ c := leads_run _ _
  have hreach : c.Reachable := (Reachable.start _ _ _).leads hleads
  have henglish : c.translator = Message.english.translator :=
    congrArg Engine.translator (hleads.evolves (.start _ _ _)).engine
  have hmem : "copy" ∈ c.forms.fields "form" := by decide +kernel
  obtain ⟨state, hfind⟩ :=
    exists_state_resetForm hreach (Engine.not_fails_of_english henglish) hmem
  have htold : (reset.fields.find? "copy").all (fun state =>
      decide (state.disabled = false ∧ registration.Repeats state c.config)) = true := by
    decide +kernel
  rw [show reset.fields.find? "copy" = some state from hfind] at htold
  obtain ⟨henabled, hrepeats⟩ := of_decide_eq_true htold
  have hbefore : reset.dependencies.edges.filter (·.dependent = "copy") =
      [⟨"copy", "word", .eq⟩] := by
    decide +kernel
  have hafter : (reset.register registration).1.dependencies.edges.filter (·.dependent = "copy") =
      [⟨"copy", "word", .ne⟩] := by
    decide +kernel
  have hperm := hall c "copy" "form" hreach henglish hmem state hfind henabled registration hrepeats
  rw [show (reset.register registration).1.dependencies.edges.filter _ = _ from hafter,
    show reset.dependencies.edges.filter _ = _ from hbefore, List.perm_singleton] at hperm
  cases hperm

end Context

end FieldRules
