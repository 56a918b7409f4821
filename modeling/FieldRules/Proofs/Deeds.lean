import FieldRules.Proofs.Changes

/-!
# Evaluations and verdicts, one by one

Evaluations are performed by many operations, and by timers that run out.  Some
operations tell their caller what an evaluation ends in and stop there, and
everywhere else an error is kept.  The end of an inquiry has no caller, so its error is
kept as well.

* `Deed`: one evaluation, or the end of one inquiry, in the context in which it happens.
* `Context.deeds`, `Event.deeds`: what is done for an operation or an event.
* `Context.Carries`: what comes of some deeds: errors that are kept, marks in the
  journal, and fields that are invalid.
* `Context.Tells`: what comes of them where a caller is told.
* `tells_register`, `tells_checkForm` and their like: the operations that tell.
* `keeps_change`, `keeps_fire`: the operations and events that do not.
-/

namespace FieldRules

/-- The error of a result, if it has one. -/
def failure? {ε α : Type} : Except ε α → Option ε
  | .ok _ => none
  | .error e => some e

/-- Whether a mark tells of an evaluation, or of the end of an inquiry. -/
def Mark.isWork : Mark → Bool
  | evaluated .. | concluded .. => true
  | changed .. | disabled _ | ruled _ | reset _ | removed _ => false

/-- The evaluations and the ends of inquiries that the journal tells of. -/
def Context.work (c : Context) : List Mark :=
  c.journal.filter (·.isWork)

/-! ## Deeds -/

/-- One evaluation of a field, or the end of one inquiry, with the context in which it
happens. -/
inductive Deed where
  | evaluation (before : Context) (field : String)
  | verdict (before : Context) (inquiry : Inquiry) (results : Results)

namespace Deed

/-- The field that it is about. -/
def field : Deed → String
  | evaluation _ field => field
  | verdict _ inquiry _ => inquiry.field

/-- The context that it leaves. -/
def after : Deed → Context
  | evaluation before field => (before.evaluate field).1
  | verdict before inquiry results => before.conclude inquiry results

/-- The error that it ends in.  An inquiry that is out of date ends in none, whatever the
replies are. -/
def error? : Deed → Option ConfigError
  | evaluation before field =>
    (before.fields.find? field).bind fun state => failure? (before.evaluation state)
  | verdict before inquiry results =>
    if before.generations.isCurrent inquiry.field inquiry.generation then
      failure? (before.engine.collect inquiry.field results)
    else none

/-- What the journal tells of it. -/
def mark? : Deed → Option Mark
  | evaluation before field =>
    if before.isRegistered field then
      some (.evaluated field (before.generations.issued + 1) (before.values.find? field))
    else none
  | verdict before inquiry _ =>
    if before.generations.isCurrent inquiry.field inquiry.generation then
      some (.concluded inquiry.field inquiry.generation)
    else none

/-- It leaves its field invalid, with an entry in the summary. -/
def Spoils (deed : Deed) : Prop :=
  ∃ state, deed.after.fields.find? deed.field = some state ∧ state.valid = false ∧
    deed.after.summary.get? deed.field = some (.ofField state)

end Deed

namespace Context

/-! ## What is done -/

/-- The evaluations of some fields in turn, up to the first that fails.  Each field is
evaluated in the context that is prepared for it, if there is one. -/
def evaluations (prepare : Context → String → Option Context) : Context → List String → List Deed
  | _, [] => []
  | c, field :: rest =>
    match prepare c field with
    | none => evaluations prepare c rest
    | some d =>
      .evaluation d field ::
        match d.evaluate field with
        | (d, .ok ()) => evaluations prepare d rest
        | (_, .error _) => []

/-- The context in which a field that waits is evaluated. -/
def unpended? (c : Context) (field : String) : Option Context :=
  if c.clock.isPending field then some (c.cancel field) else none

/-- A field is evaluated in the context as it is. -/
def asIs? (c : Context) (_ : String) : Option Context :=
  some c

/-- The evaluations of fields that are scheduled with some delays in turn.  Without a
delay a field is evaluated at once. -/
def scheduled : Context → List (String × Nat) → List Deed
  | _, [] => []
  | c, (field, delay) :: rest =>
    (if delay = 0 then [.evaluation (c.cancel field) field] else []) ++
      scheduled (c.schedule field delay) rest

/-- The fields that are scheduled when the value of a field changes: the field itself,
if it is validated, and those that depend on it. -/
def delays (c : Context) (state : FieldState) : List (String × Nat) :=
  (if state.status = .cancelled then [] else [(state.name, state.debounce)]) ++
    (c.dependencies.dependentsOf state.name).map (·, 0)

/-- The context in which a field with other rules is evaluated. -/
def reruled (c : Context) (state : FieldState) (rules : String) (compiled : Rule.Compiled) :
    Context :=
  ((c.note (.ruled state.name)).redepend (state.withRules rules compiled)).put
    (state.ruled rules compiled)

/-- What is done when the value of a field changes. -/
def changeDeeds (c : Context) (field : String) (value : Option String) : List Deed :=
  match c.fields.find? field with
  | none => []
  | some state => scheduled (c.withChange state value) (c.delays state)

/-- What is done for an operation. -/
def deeds (c : Context) : Operation → List Deed
  | .register registration =>
    match c.compile registration.rules with
    | .error _ => []
    | .ok compiled =>
      if registration.name.isEmpty then []
      else
        [.evaluation ((c.vacated registration.name).enroll registration compiled)
          registration.name]
  | .setRules field rules =>
    match c.compile rules, c.fields.find? field with
    | .ok compiled, some state =>
      if compiled.validators.isEmpty then []
      else [.evaluation (c.reruled state rules compiled) field]
    | _, _ => []
  | .setValue field value => c.changeDeeds field (some value)
  | .clearValue field => c.changeDeeds field none
  | .setDisabled field disabled =>
    match c.fields.find? field with
    | none => []
    | some state => if disabled then [] else [.evaluation (c.put state.enabled) field]
  | .validate field =>
    match c.fields.find? field with
    | none => []
    | some state => [.evaluation ((c.put { state with touched := true }).cancel field) field]
  | .checkForm form => evaluations unpended? c (c.forms.fields form)
  | .resetForm form options =>
    if options.removeValidators then []
    else
      evaluations asIs? (c.renewedForm form options.emptyValues) (c.forms.fields form)
  -- what an advance of the clock brings about is done for the events that fall due
  | .unregister _ | .advance _ | .setCallback .. | .removeCallback _ | .takeErrors => []

end Context

/-- What is done when an event happens. -/
def Event.deeds (c : Context) : Event → List Deed
  | evaluate field => [.evaluation c field]
  | reply inquiry results => [.verdict c inquiry results]

/-! ## Single deeds -/

theorem filterMap_singleton {α β : Type} (f : α → Option β) (a : α) :
    [a].filterMap f = (f a).toList := by
  cases h : f a <;> simp [h]

theorem failure?_map {ε α : Type} (result : Except ε α) :
    failure? (result.map fun _ => ()) = failure? result := by
  cases result <;> rfl

theorem exists_of_failure? {ε α : Type} {result : Except ε α} (h : failure? result ≠ none) :
    ∃ e, result = .error e := by
  cases result with
  | ok a => exact absurd rfl h
  | error e => exact ⟨e, rfl⟩

namespace Context

variable {c d : Context} {field form : String} {state : FieldState} {inquiry : Inquiry}
  {results : Results}

theorem work_note (c : Context) (mark : Mark) :
    (c.note mark).work = c.work ++ [mark].filter (·.isWork) :=
  List.filter_append ..

theorem errors_retain (c : Context) (result : Except ConfigError Unit) :
    (c.retain result).errors = c.errors ++ (failure? result).toList := by
  cases result with
  | ok => exact (List.append_nil _).symm
  | error e => rfl

theorem work_retain (c : Context) (result : Except ConfigError Unit) :
    (c.retain result).work = c.work := by
  cases result <;> rfl

/-- The error of an evaluation is what it ends in. -/
theorem failure?_evaluate (horderly : c.Orderly) (field : String) :
    failure? (c.evaluate field).2 = (Deed.evaluation c field).error? := by
  cases hfind : c.fields.find? field with
  | none =>
    rw [evaluate_of_unregistered c hfind, Deed.error?, hfind]
    rfl
  | some state =>
    obtain ⟨rfl, hname⟩ := horderly.named field state hfind
    rw [evaluate_eq c hfind rfl hname, Deed.error?, hfind]
    exact failure?_map _

/-- An evaluation keeps no error. -/
theorem errors_evaluate (horderly : c.Orderly) (field : String) :
    (c.evaluate field).1.errors = c.errors := by
  cases hfind : c.fields.find? field with
  | none => rw [evaluate_of_unregistered c hfind]
  | some state =>
    obtain ⟨rfl, hname⟩ := horderly.named field state hfind
    rw [evaluate_eq c hfind rfl hname]
    rfl

theorem work_evaluate (horderly : c.Orderly) (field : String) :
    (c.evaluate field).1.work = c.work ++ (Deed.evaluation c field).mark?.toList := by
  cases hfind : c.fields.find? field with
  | none =>
    rw [evaluate_of_unregistered c hfind, Deed.mark?, isRegistered, Assoc.has, hfind]
    exact (List.append_nil _).symm
  | some state =>
    obtain ⟨rfl, hname⟩ := horderly.named field state hfind
    rw [evaluate_eq c hfind rfl hname, Deed.mark?, isRegistered, Assoc.has, hfind]
    exact work_note (c.invalidate state.name) _

/-- An evaluation that fails leaves its field invalid. -/
theorem spoils_evaluation (horderly : c.Orderly)
    (herror : (Deed.evaluation c field).error? ≠ none) : (Deed.evaluation c field).Spoils := by
  rw [Deed.error?] at herror
  cases hfind : c.fields.find? field with
  | none =>
    rw [hfind] at herror
    exact absurd rfl herror
  | some state =>
    rw [hfind] at herror
    obtain ⟨e, he⟩ := exists_of_failure? herror
    obtain ⟨rfl, hname⟩ := horderly.named field state hfind
    have hview := view_evaluate_self c hfind rfl hname
    have hvalid := ({ state with lastValue := (c.view state.name).value, generation := none } :
      FieldState).valid_record false ""
    rw [he] at hview
    refine ⟨_, congrArg View.state hview, hvalid, (congrArg View.entry hview).trans ?_⟩
    exact if_neg (Bool.eq_false_iff.1 hvalid)

theorem Orderly.evaluate (horderly : c.Orderly) (field : String) : (c.evaluate field).1.Orderly :=
  horderly.changes (changes_evaluate horderly (List.mem_singleton_self field))

/-! ## Several deeds -/

/-- No error comes or goes, and the journal tells of no evaluation and of no inquiry that
ends. -/
structure Silent (c d : Context) : Prop where
  errors : d.errors = c.errors
  work : d.work = c.work

namespace Silent

variable {c' : Context}

theorem refl (c : Context) : Silent c c :=
  ⟨rfl, rfl⟩

theorem trans (hfirst : Silent c d) (hsecond : Silent d c') : Silent c c' :=
  ⟨hsecond.errors.trans hfirst.errors, hsecond.work.trans hfirst.work⟩

theorem foldl {α : Type} {change : Context → α → Context}
    (hchange : ∀ c item, Silent c (change c item)) (items : List α) (c : Context) :
    Silent c (items.foldl change c) :=
  List.foldlRecOn (motive := Silent c) _ _ (.refl c) fun d hd item _ => hd.trans (hchange d item)

theorem note (c : Context) {mark : Mark} (hmark : mark.isWork = false) : Silent c (c.note mark) where
  errors := rfl
  work := by
    rw [work_note, List.filter_cons_of_neg (by simp [hmark]), List.filter_nil, List.append_nil]

end Silent

/-- What comes of some deeds: some errors are kept, the journal tells of all of them, and
those that fail leave their fields invalid. -/
structure Carries (deeds : List Deed) (kept : List ConfigError) (c d : Context) : Prop where
  errors : d.errors = c.errors ++ kept
  work : d.work = c.work ++ deeds.filterMap (·.mark?)
  spoils : ∀ deed ∈ deeds, deed.error? ≠ none → deed.Spoils

namespace Carries

variable {c' : Context} {deeds more : List Deed} {kept others : List ConfigError}

theorem silent (hsilent : Silent c d) : Carries [] [] c d where
  errors := hsilent.errors.trans (List.append_nil _).symm
  work := hsilent.work.trans (List.append_nil _).symm
  spoils _ hmem := absurd hmem List.not_mem_nil

theorem trans (hfirst : Carries deeds kept c d) (hsecond : Carries more others d c') :
    Carries (deeds ++ more) (kept ++ others) c c' where
  errors := by rw [hsecond.errors, hfirst.errors, List.append_assoc]
  work := by rw [hsecond.work, hfirst.work, List.filterMap_append, List.append_assoc]
  spoils deed hmem := by
    rcases List.mem_append.1 hmem with hmem | hmem
    · exact hfirst.spoils deed hmem
    · exact hsecond.spoils deed hmem

end Carries

/-- What comes of some deeds if all their errors are kept. -/
abbrev Keeps (deeds : List Deed) (c d : Context) : Prop :=
  Carries deeds (deeds.filterMap (·.error?)) c d

theorem Keeps.trans {c' : Context} {deeds more : List Deed} (hfirst : Keeps deeds c d)
    (hsecond : Keeps more d c') : Keeps (deeds ++ more) c c' := by
  rw [Keeps, List.filterMap_append]
  exact Carries.trans hfirst hsecond

/-- An evaluation whose error is not kept. -/
theorem carries_evaluate (horderly : c.Orderly) (field : String) :
    Carries [.evaluation c field] [] c (c.evaluate field).1 where
  errors := (errors_evaluate horderly field).trans (List.append_nil _).symm
  work := (work_evaluate horderly field).trans (by rw [filterMap_singleton])
  spoils deed hmem herror := by
    obtain rfl := List.mem_singleton.1 hmem
    exact spoils_evaluation horderly herror

/-- An evaluation whose error is kept. -/
theorem keeps_evaluateUnseen (horderly : c.Orderly) (field : String) :
    Keeps [.evaluation c field] c (c.evaluateUnseen field) := by
  have hevaluate := carries_evaluate horderly field
  refine ⟨?_, (work_retain _ _).trans hevaluate.work, hevaluate.spoils⟩
  rw [evaluateUnseen, errors_retain, errors_evaluate horderly, failure?_evaluate horderly,
    filterMap_singleton]

/-- An inquiry that is out of date ends without any effect. -/
theorem keeps_conclude_of_stale
    (hstale : ¬ c.generations.isCurrent inquiry.field inquiry.generation = true)
    (results : Results) :
    Keeps [.verdict c inquiry results] c (c.conclude inquiry results) := by
  have herror : (Deed.verdict c inquiry results).error? = none := if_neg hstale
  have hmark : (Deed.verdict c inquiry results).mark? = none := if_neg hstale
  have hconclude : c.conclude inquiry results = c := if_neg hstale
  rw [Keeps, filterMap_singleton, herror, hconclude]
  refine ⟨(List.append_nil _).symm, ?_, fun deed hmem hfails => ?_⟩
  · rw [filterMap_singleton, hmark]
    exact (List.append_nil _).symm
  · rw [List.mem_singleton.1 hmem] at hfails
    exact absurd herror hfails

/-- An inquiry that is not out of date ends with its error kept and its field invalid. -/
theorem keeps_conclude_of_current (hfind : c.fields.find? inquiry.field = some state)
    (hname : state.name = inquiry.field) (hfield : inquiry.field ≠ "")
    (hcurrent : c.generations.isCurrent inquiry.field inquiry.generation = true)
    (results : Results) :
    Keeps [.verdict c inquiry results] c (c.conclude inquiry results) := by
  have herror : (Deed.verdict c inquiry results).error? =
      failure? (c.engine.collect inquiry.field results) := if_pos hcurrent
  have hmark : (Deed.verdict c inquiry results).mark? =
      some (.concluded inquiry.field inquiry.generation) := if_pos hcurrent
  have hconclude := conclude_eq hfind (hname ▸ hfield)
    (by simpa [Generations.isCurrent] using hcurrent) results
  have hconcluded := (FieldState.name_of_setup (state.setup_concluded c.engine inquiry.evaluation
    (c.engine.collect inquiry.field results))).trans hname
  refine ⟨?_, ?_, fun deed hmem hfails => ?_⟩
  · rw [hconclude, errors_retain, failure?_map, filterMap_singleton, herror]
    rfl
  · rw [hconclude, work_retain, filterMap_singleton, hmark]
    exact work_note c _
  · obtain rfl := List.mem_singleton.1 hmem
    rw [herror] at hfails
    obtain ⟨e, he⟩ := exists_of_failure? hfails
    have hview := congrArg (view · inquiry.field) hconclude
    rw [view_retain, view_stored_self _ hconcluded, he] at hview
    have hvalid := ({ state with generation := none } : FieldState).valid_record false
      inquiry.evaluation.message
    refine ⟨_, congrArg View.state hview, hvalid, (congrArg View.entry hview).trans ?_⟩
    exact if_neg (Bool.eq_false_iff.1 hvalid)

/-- The error of an inquiry is kept if the inquiry is not out of date. -/
theorem keeps_conclude (horderly : c.Orderly)
    (hregistered : c.generations.isCurrent inquiry.field inquiry.generation = true →
      c.isRegistered inquiry.field = true) (results : Results) :
    Keeps [.verdict c inquiry results] c (c.conclude inquiry results) := by
  by_cases hcurrent : c.generations.isCurrent inquiry.field inquiry.generation = true
  · obtain ⟨state, hfind⟩ := Option.isSome_iff_exists.1 (hregistered hcurrent)
    obtain ⟨hname, hfield⟩ := horderly.named _ state hfind
    exact keeps_conclude_of_current hfind hname hfield hcurrent results
  · exact keeps_conclude_of_stale hcurrent results

/-! ## Operations that tell their caller -/

/-- What comes of some deeds if the caller is told: no error is kept, and where anything is
done, the outcome is the error of the deed that fails, if one does. -/
structure Tells {α : Type} (deeds : List Deed) (c : Context)
    (outcome : Context × Except ConfigError α) : Prop where
  carries : Carries deeds [] c outcome.1
  told : deeds ≠ [] → deeds.filterMap (·.error?) = (failure? outcome.2).toList

section Tells

variable {α β : Type} {deeds : List Deed}

/-- What is refused, and what needs no evaluation. -/
theorem tells_nothing (hsilent : Silent c d) (result : Except ConfigError α) :
    Tells [] c (d, result) where
  carries := .silent hsilent
  told hne := absurd rfl hne

/-- A field is evaluated when all is ready for it. -/
theorem tells_evaluate (hsilent : Silent c d) (horderly : d.Orderly) (field : String) :
    Tells [.evaluation d field] c (d.evaluate field) where
  carries := (Carries.silent hsilent).trans (carries_evaluate horderly field)
  told _ := by rw [filterMap_singleton, failure?_evaluate horderly]

/-- What follows on a success does not fail. -/
theorem Tells.map {c' : Context} {first : Except ConfigError α} {result : Except ConfigError β}
    (htells : Tells deeds c (d, first)) (hsilent : Silent d c')
    (hfailure : failure? result = failure? first) : Tells deeds c (c', result) where
  carries := by
    have hcarries := htells.carries.trans (.silent hsilent)
    rwa [List.append_nil, List.append_nil] at hcarries
  told hne := hfailure ▸ htells.told hne

end Tells

/-! ### Single fields -/

theorem silent_remove (c : Context) (field : String) : Silent c (c.remove field) := by
  unfold remove
  dsimp only
  split
  · have hnoted : Silent c (c.note (.removed field)) := .note c rfl
    exact ⟨hnoted.errors, hnoted.work⟩
  · exact ⟨rfl, rfl⟩

theorem silent_vacated (c : Context) (field : String) : Silent c (c.vacated field) := by
  unfold vacated
  split
  · exact silent_remove c field
  · exact .refl c

theorem silent_enroll (c : Context) (registration : Registration) (compiled : Rule.Compiled) :
    Silent c (c.enroll registration compiled) := by
  rw [enroll_eq]
  cases registration.value <;> exact ⟨rfl, rfl⟩

theorem tells_register (hsound : c.Sound) (registration : Registration) :
    Tells (c.deeds (.register registration)) c (c.register registration) := by
  rcases c.register_cases registration with
    ⟨e, hregister, hrefused⟩ | ⟨compiled, hname, hcompile, hregister⟩
  · have hnothing : c.deeds (.register registration) = [] := by
      rw [deeds]
      rcases hrefused with hempty | hcompile
      · cases c.compile registration.rules with
        | error e => rfl
        | ok compiled => exact if_pos (by rw [hempty]; rfl)
      · rw [hcompile]
    rw [hnothing, hregister]
    exact tells_nothing (.refl c) _
  · have hdone : c.deeds (.register registration) =
        [.evaluation ((c.vacated registration.name).enroll registration compiled)
          registration.name] := by
      rw [deeds, hcompile]
      exact if_neg (by simpa using hname)
    have hvacated := (hsound.vacated registration.name).orderly
    have hplaced : Orderly { c.vacated registration.name with
        forms := registration.place (c.vacated registration.name).forms } :=
      ⟨hvacated.named, hvacated.clock⟩
    have henrolled := hplaced.changes (changes_enroll registration compiled hname
      (List.mem_singleton_self registration.name))
    rw [hdone, hregister]
    exact tells_evaluate ((silent_vacated c _).trans (silent_enroll _ registration compiled))
      henrolled registration.name

theorem tells_setRules (horderly : c.Orderly) (field rules : String) :
    Tells (c.deeds (.setRules field rules)) c (c.setRules field rules) := by
  rw [deeds, setRules]
  cases c.compile rules with
  | error e => exact tells_nothing (.refl c) _
  | ok compiled =>
    cases hfind : c.fields.find? field with
    | none => exact tells_nothing (.refl c) _
    | some state =>
      obtain ⟨rfl, hname⟩ := horderly.named field state hfind
      have hnoted : Silent c (c.note (.ruled state.name)) := .note c rfl
      dsimp only
      split
      · refine tells_nothing ?_ _
        exact ⟨hnoted.errors, hnoted.work⟩
      · have hreruled : (c.reruled state rules compiled).Orderly :=
          .put ⟨horderly.named, horderly.clock⟩ (by exact hname)
        have hsilent : Silent c (c.reruled state rules compiled) := ⟨hnoted.errors, hnoted.work⟩
        exact tells_evaluate hsilent hreruled state.name

theorem tells_setDisabled (horderly : c.Orderly) (field : String) (disabled : Bool) :
    Tells (c.deeds (.setDisabled field disabled)) c (c.setDisabled field disabled) := by
  rw [deeds, setDisabled]
  cases hfind : c.fields.find? field with
  | none => exact tells_nothing (.refl c) _
  | some state =>
    obtain ⟨rfl, hname⟩ := horderly.named field state hfind
    cases disabled with
    | true =>
      have hnoted : Silent c (c.note (.disabled state.name)) := .note c rfl
      refine tells_nothing ?_ _
      exact ⟨hnoted.errors, hnoted.work⟩
    | false =>
      have hsilent : Silent c (c.put state.enabled) := ⟨rfl, rfl⟩
      exact tells_evaluate hsilent (horderly.put hname) state.name

/-- A field that has been evaluated is still there. -/
theorem exists_report_evaluate (horderly : c.Orderly) (hfind : c.fields.find? field = some state) :
    ∃ report, (c.evaluate field).1.report? field = some report := by
  obtain ⟨rfl, hname⟩ := horderly.named field state hfind
  have hstate := congrArg View.state (view_evaluate_self c hfind rfl hname)
  exact ⟨_, congrArg (Option.map _) hstate⟩

theorem Orderly.cancel (horderly : c.Orderly) (field : String) : (c.cancel field).Orderly :=
  ⟨horderly.named, horderly.clock.cancel field⟩

theorem tells_validate (horderly : c.Orderly) (field : String) :
    Tells (c.deeds (.validate field)) c (c.validate field) := by
  rw [deeds, validate]
  cases hfind : c.fields.find? field with
  | none => exact tells_nothing (.refl c) _
  | some state =>
    obtain ⟨rfl, hname⟩ := horderly.named field state hfind
    have hput : (c.put { state with touched := true }).Orderly := horderly.put hname
    have hready := hput.cancel state.name
    have hreport := exists_report_evaluate hready
      (Assoc.find?_put_self c.fields state.name { state with touched := true })
    have hsilent : Silent c ((c.put { state with touched := true }).cancel state.name) :=
      ⟨rfl, rfl⟩
    have htells := tells_evaluate hsilent hready state.name
    dsimp only
    generalize ((c.put { state with touched := true }).cancel state.name).evaluate state.name =
      evaluated at hreport htells
    obtain ⟨d, result⟩ := evaluated
    cases result with
    | error e => exact htells.map (.refl d) rfl
    | ok =>
      obtain ⟨report, hreport⟩ := hreport
      dsimp only at hreport ⊢
      rw [hreport]
      exact htells.map (.refl d) rfl

/-! ### Fields in turn -/

/-- Some fields are evaluated in turn, up to the first error, each of them in the context
that is prepared for it, if there is one. -/
def evaluateInTurn (prepare : Context → String → Option Context) :
    Context → List String → Context × Except ConfigError Unit
  | c, [] => (c, .ok ())
  | c, field :: rest =>
    match prepare c field with
    | none => evaluateInTurn prepare c rest
    | some d =>
      match d.evaluate field with
      | (d, .ok ()) => evaluateInTurn prepare d rest
      | (d, .error e) => (d, .error e)

theorem flush_eq_evaluateInTurn (fields : List String) :
    ∀ c : Context, c.flush fields = evaluateInTurn unpended? c fields := by
  induction fields with
  | nil => exact fun c => rfl
  | cons field rest ih =>
    intro c
    rw [flush, evaluateInTurn, unpended?]
    split
    · dsimp only
      generalize (c.cancel field).evaluate field = evaluated
      obtain ⟨d, result⟩ := evaluated
      cases result with
      | error e => rfl
      | ok => exact ih d
    · exact ih c

theorem evaluateAll_eq_evaluateInTurn (fields : List String) :
    ∀ c : Context, c.evaluateAll fields = evaluateInTurn asIs? c fields := by
  induction fields with
  | nil => exact fun c => rfl
  | cons field rest ih =>
    intro c
    rw [evaluateAll, evaluateInTurn, asIs?]
    dsimp only
    generalize c.evaluate field = evaluated
    obtain ⟨d, result⟩ := evaluated
    cases result with
    | error e => rfl
    | ok => exact ih d

/-- The first evaluation that fails is the last one, and its error is told. -/
theorem tells_evaluateInTurn {prepare : Context → String → Option Context}
    (hprepare : ∀ {c field d}, c.Orderly → prepare c field = some d → d.Orderly ∧ Silent c d)
    (fields : List String) :
    ∀ {c : Context}, c.Orderly →
      Carries (evaluations prepare c fields) [] c (evaluateInTurn prepare c fields).1 ∧
        (evaluations prepare c fields).filterMap (·.error?) =
          (failure? (evaluateInTurn prepare c fields).2).toList := by
  induction fields with
  | nil => exact fun _ => ⟨.silent (.refl _), rfl⟩
  | cons field rest ih =>
    intro c horderly
    rw [evaluations, evaluateInTurn]
    cases hprepared : prepare c field with
    | none => exact ih horderly
    | some d =>
      obtain ⟨hready, hsilent⟩ := hprepare horderly hprepared
      have hcarries := (Carries.silent hsilent).trans (carries_evaluate hready field)
      have hfailure := failure?_evaluate hready field
      have hafter := hready.evaluate field
      dsimp only
      rw [List.filterMap_cons, ← hfailure]
      generalize d.evaluate field = evaluated at hcarries hafter
      obtain ⟨after, result⟩ := evaluated
      -- no field is evaluated after an error, so there is no second one to tell of
      cases result with
      | error e => exact ⟨hcarries, rfl⟩
      | ok =>
        obtain ⟨hrest, htold⟩ := ih hafter
        exact ⟨hcarries.trans hrest, htold⟩

/-! ### Forms -/

theorem silent_reveal (c : Context) (field : String) : Silent c (c.reveal field) := by
  unfold reveal
  split
  · exact .refl c
  · split <;> exact ⟨rfl, rfl⟩

theorem tells_checkForm (horderly : c.Orderly) (form : String) :
    Tells (c.deeds (.checkForm form)) c (c.checkForm form) := by
  have hunpended : ∀ {c : Context} {field d}, c.Orderly → c.unpended? field = some d →
      d.Orderly ∧ Silent c d := by
    intro c field d horderly hprepared
    unfold unpended? at hprepared
    split at hprepared
    · cases hprepared
      exact ⟨horderly.cancel field, ⟨rfl, rfl⟩⟩
    · cases hprepared
  obtain ⟨hcarries, htold⟩ := tells_evaluateInTurn hunpended (c.forms.fields form) horderly
  rw [← flush_eq_evaluateInTurn] at hcarries htold
  have hflush : Tells (c.deeds (.checkForm form)) c (c.flush (c.forms.fields form)) :=
    ⟨hcarries, fun _ => htold⟩
  unfold checkForm
  dsimp only
  generalize c.flush (c.forms.fields form) = flushed at hflush
  obtain ⟨d, result⟩ := flushed
  cases result with
  | error e => exact hflush.map (.refl d) rfl
  | ok => exact hflush.map (.foldl silent_reveal _ d) rfl

theorem silent_renew (emptied : Bool) (c : Context) (field : String) :
    Silent c (renew emptied c field) := by
  have hvalue : Silent c
      (if emptied then { c with values := c.values.set field none } else c) := by
    split <;> exact ⟨rfl, rfl⟩
  unfold renew
  dsimp only
  split
  · exact hvalue
  · have hnoted : ∀ d : Context, Silent d (d.note (.reset field)) := fun d => .note d rfl
    have hsilent := hvalue.trans (hnoted _)
    exact ⟨hsilent.errors, hsilent.work⟩

theorem silent_renewedForm (c : Context) (form : String) (emptied : Bool) :
    Silent c (c.renewedForm form emptied) := by
  have houtdate : ∀ (c : Context) field, Silent c (c.outdate field) := fun _ _ => ⟨rfl, rfl⟩
  have houtdated : Silent c ((c.forms.fields form).foldl outdate c) := .foldl houtdate _ c
  have hcleared : Silent c (((c.forms.fields form).foldl outdate c).clearErrors form) :=
    ⟨houtdated.errors, houtdated.work⟩
  exact hcleared.trans (.foldl (silent_renew emptied) _ _)

theorem tells_resetForm (hsound : c.Sound) (form : String) (options : ResetOptions) :
    Tells (c.deeds (.resetForm form options)) c (c.resetForm form options) := by
  rw [deeds, resetForm]
  split
  · have hremoved : Silent c ((c.forms.fields form).foldl remove c) := .foldl silent_remove _ c
    refine tells_nothing ?_ _
    exact ⟨hremoved.errors, hremoved.work⟩
  · have hrenewed := silent_renewedForm c form options.emptyValues
    have horderly := hsound.orderly.changes (changes_renewedForm hsound form options.emptyValues)
    have hready : ∀ {c : Context} {field d}, c.Orderly → c.asIs? field = some d →
        d.Orderly ∧ Silent c d := by
      intro c field d horderly hprepared
      obtain rfl := Option.some.inj hprepared
      exact ⟨horderly, .refl c⟩
    obtain ⟨hcarries, htold⟩ := tells_evaluateInTurn hready (c.forms.fields form) horderly
    rw [← evaluateAll_eq_evaluateInTurn] at hcarries htold
    exact ⟨(Carries.silent hrenewed).trans hcarries, fun _ => htold⟩

/-! ## Changes of values, and events -/

/-- The errors of fields that are evaluated at once are kept. -/
theorem keeps_scheduled (items : List (String × Nat)) :
    ∀ {c : Context}, c.Orderly →
      Keeps (scheduled c items) c (items.foldl (fun c item => c.schedule item.1 item.2) c) := by
  induction items with
  | nil => exact fun _ => .silent (.refl _)
  | cons item rest ih =>
    obtain ⟨field, delay⟩ := item
    intro c horderly
    have hrest := ih (horderly.changes (changes_schedule horderly (List.mem_singleton_self field)
      delay))
    refine Keeps.trans ?_ hrest
    split
    · rename_i hdelay
      subst hdelay
      have hcancelled : Silent c (c.cancel field) := ⟨rfl, rfl⟩
      rw [schedule_zero]
      exact (Carries.silent hcancelled).trans (keeps_evaluateUnseen (horderly.cancel field) field)
    · rename_i hdelay
      rw [schedule_succ c field hdelay]
      exact .silent ⟨rfl, rfl⟩

theorem keeps_change (horderly : c.Orderly) (field : String) (value : Option String) :
    Keeps (c.changeDeeds field value) c (c.change field value).1 := by
  unfold changeDeeds
  cases hfind : c.fields.find? field with
  | none =>
    unfold change
    rw [hfind]
    exact .silent (.refl c)
  | some state =>
    obtain ⟨rfl, hname⟩ := horderly.named field state hfind
    have hfold : (c.change state.name value).1 =
        (c.delays state).foldl (fun c item => c.schedule item.1 item.2)
          (c.withChange state value) := by
      rw [change_eq hfind rfl, delays, List.foldl_append, List.foldl_map, rescheduled]
      split <;> rfl
    have hnoted : Silent c (c.note (.changed state.name value)) := .note c rfl
    have hsilent : Silent c (c.withChange state value) := ⟨hnoted.errors, hnoted.work⟩
    have hchanged := horderly.changes
      (changes_withChange (List.mem_singleton_self state.name) hname value)
    rw [hfold]
    exact (Carries.silent hsilent).trans (keeps_scheduled (c.delays state) hchanged)

/-- Nobody is told of the error of an event. -/
theorem keeps_fire (horderly : c.Orderly)
    (hregistered : ∀ field, c.fields.find? field = none → c.generations.current? field = none)
    (event : Event) : Keeps (event.deeds c) c (c.fire event) := by
  cases event with
  | evaluate field => exact keeps_evaluateUnseen horderly field
  | reply inquiry results =>
    -- the inquiries of a field that is not there are out of date
    refine keeps_conclude horderly (fun hcurrent => ?_) results
    rw [Generations.isCurrent, decide_eq_true_eq] at hcurrent
    by_contra hnot
    rw [isRegistered, Assoc.has, Option.not_isSome_iff_eq_none] at hnot
    rw [hregistered _ hnot] at hcurrent
    cases hcurrent

end Context

end FieldRules
