import FieldRules.Proofs.Reachability

/-!
# What operations are made of

Whatever is done for the sake of some fields is a list of small changes, each of
them about one of these fields.  So what every small change keeps is true after
all that happens, and no operation has to be looked at again.

* `Context.Change`: the small changes.
* `Context.Orderly`: what they rely on and keep.
* `changes_evaluate`, `changes_conclude`: evaluations and inquiries that end.
* `changes_change`, `changes_checkForm` and their like: the operations that keep
  all fields.
* `changes_fire`, `changes_ask`, `changes_settle`: what happens without an
  operation.
* `Kept.leads`: what all small changes keep is kept by all happenings.
* `Changes.forms_eq`: none of this moves a field from one form to another.
-/

namespace FieldRules

/-- The field that an event is about. -/
def Event.field : Event → String
  | evaluate field => field
  | reply inquiry _ => inquiry.field

/-- The forms with a field in the form that it is registered for. -/
def Registration.place (registration : Registration) (forms : Forms) : Forms :=
  match registration.form with
  | some form => forms.insert form registration.name
  | none => forms

namespace Context

variable {c c' d : Context} {fields : List String} {field form : String} {state : FieldState}

/-! ## Small changes -/

/-- A small change of a context for the sake of some fields. -/
inductive Change (fields : List String) (c : Context) : Context → Prop where
  | state {state : FieldState} (hmem : state.name ∈ fields) (hname : state.name ≠ "") :
      Change fields c (c.put state)
  | dropped {field : String} (hmem : field ∈ fields) :
      Change fields c { c with fields := c.fields.drop field }
  | value {field : String} (hmem : field ∈ fields) (value : Option String) :
      Change fields c { c with values := c.values.set field value }
  | invalidated {field : String} (hmem : field ∈ fields) : Change fields c (c.invalidate field)
  | forgotten {field : String} (hmem : field ∈ fields) :
      Change fields c { c with generations := c.generations.forget field }
  | dependent {field : String} (hmem : field ∈ fields) (targets : List Target) :
      Change fields c (c.depend field targets)
  | independent {field : String} (hmem : field ∈ fields) :
      Change fields c { c with dependencies := (c.dependencies.removeDependent field).1 }
  | followed {state : FieldState} (hmem : state.name ∈ fields) :
      Change fields c { c with summary := c.summary.followed state }
  | dismissed {field : String} (hmem : field ∈ fields) : Change fields c (c.dismiss field)
  | cleared {form : String}
      (hform : ∀ entry ∈ c.summary.entries, entry.form = some form → entry.field ∈ fields) :
      Change fields c (c.clearErrors form)
  | launched {inquiries : List Inquiry} (hmem : ∀ inquiry ∈ inquiries, inquiry.field ∈ fields) :
      Change fields c (c.launch inquiries)
  | asked {before after : List Inquiry} {inquiry : Inquiry}
      (hready : c.ready = before ++ inquiry :: after) (hmem : inquiry.field ∈ fields) :
      Change fields c { c with ready := before ++ after }
  | cancelled {field : String} (hmem : field ∈ fields) : Change fields c (c.cancel field)
  | delayed {field : String} (hmem : field ∈ fields) (delay : Nat) :
      Change fields c
        { c with clock := (c.clock.cancel field).set (some field) delay (.evaluate field) }
  | awaited {inquiry : Inquiry} (hmem : inquiry.field ∈ fields) (delay : Nat) (results : Results) :
      Change fields c { c with clock := c.clock.set none delay (.reply inquiry results) }
  | fired {before after : List (Timer Event)} {timer : Timer Event}
      (htimers : c.clock.timers = before ++ timer :: after) (hmem : timer.event.field ∈ fields) :
      Change fields c (c.atInstant c.clock.now (before ++ after))
  | aside (callbacks : Callbacks) (errors : List ConfigError) (asked : List (String × Request))
      (journal : List Mark) :
      Change fields c { c with callbacks, errors, asked, journal }

/-- Some small changes one after the other. -/
abbrev Changes (fields : List String) : Context → Context → Prop :=
  Relation.ReflTransGen (Change fields)

/-- Fields are stored under their names, and timers under the fields that they are
about. -/
structure Orderly (c : Context) : Prop where
  named : ∀ field state, c.fields.find? field = some state → state.name = field ∧ field ≠ ""
  clock : c.clock.Sound

theorem Sound.orderly (hsound : c.Sound) : c.Orderly where
  named field state hfind := by
    have hpresent := hsound.present hfind
    exact ⟨hpresent.name, hpresent.named⟩
  clock := hsound.regular.clock

theorem Orderly.put (horderly : c.Orderly) (hname : state.name ≠ "") : (c.put state).Orderly where
  named field found hfind := by
    by_cases hfield : state.name = field
    · subst hfield
      rw [Context.put, Assoc.find?_put_self] at hfind
      cases hfind
      exact ⟨rfl, hname⟩
    · rw [Context.put, Assoc.find?_put_of_ne _ _ hfield] at hfind
      exact horderly.named field found hfind
  clock := horderly.clock

theorem Orderly.drop (horderly : c.Orderly) (field : String) :
    Orderly { c with fields := c.fields.drop field } where
  named other found hfind := by
    by_cases hother : field = other
    · subst hother
      have hnone := Assoc.find?_drop_self c.fields field
      cases hnone.symm.trans hfind
    · rw [Assoc.find?_drop_of_ne c.fields hother] at hfind
      exact horderly.named other found hfind
  clock := horderly.clock

theorem Orderly.change (horderly : c.Orderly) (hchange : Change fields c c') : c'.Orderly := by
  have hnamed := horderly.named
  have hclock := horderly.clock
  cases hchange with
  | state hmem hname => exact horderly.put hname
  | dropped hmem => exact horderly.drop _
  | cancelled hmem => exact ⟨hnamed, hclock.cancel _⟩
  | delayed hmem delay => exact ⟨hnamed, hclock.set_evaluate _ delay⟩
  | awaited hmem delay results => exact ⟨hnamed, hclock.set_reply delay _ results⟩
  | fired htimers hmem => exact ⟨hnamed, hclock.take htimers _⟩
  | _ => exact ⟨hnamed, hclock⟩

theorem Orderly.changes (horderly : c.Orderly) (hchanges : Changes fields c c') :
    c'.Orderly := by
  induction hchanges with
  | refl => exact horderly
  | tail _ hchange ih => exact ih.change hchange

/-- No small change moves a field from one form to another. -/
theorem Changes.forms_eq (hchanges : Changes fields c c') : c'.forms = c.forms := by
  induction hchanges with
  | refl => rfl
  | tail _ hchange ih => cases hchange <;> exact ih

namespace Changes

theorem note (mark : Mark) : Changes fields c (c.note mark) :=
  .single (.aside c.callbacks c.errors c.asked (c.journal ++ [mark]))

theorem retain (hchanges : Changes fields c d) (result : Except ConfigError Unit) :
    Changes fields c (d.retain result) := by
  cases result with
  | ok => exact hchanges
  | error e => exact hchanges.tail (.aside d.callbacks (d.errors ++ [e]) d.asked d.journal)

theorem stored (hmem : state.name ∈ fields) (hname : state.name ≠ "") :
    Changes fields c (c.stored state) := by
  have hput : Change fields c (c.put state) := .state hmem hname
  exact .tail (.single hput) (.followed hmem)

/-- A list of changes, each of which is about one of the fields. -/
theorem foldl {α : Type} {change : Context → α → Context} (items : List α)
    (hchange : ∀ d, d.Orderly → ∀ item ∈ items, Changes fields d (change d item)) :
    ∀ {c : Context}, c.Orderly → Changes fields c (items.foldl change c) := by
  induction items with
  | nil =>
    intro c _
    exact .refl
  | cons item rest ih =>
    intro c horderly
    have hfirst := hchange c horderly item List.mem_cons_self
    refine hfirst.trans (ih ?_ (horderly.changes hfirst))
    exact fun d hd other hmem => hchange d hd other (List.mem_cons_of_mem item hmem)

end Changes

/-! ## Evaluations -/

theorem changes_begun (hmem : field ∈ fields) : Changes fields c (c.begun field) := by
  have hinvalidated : Change fields c (c.invalidate field) := .invalidated hmem
  exact (Relation.ReflTransGen.single hinvalidated).trans (Changes.note _)

theorem changes_evaluate (horderly : c.Orderly) (hmem : field ∈ fields) :
    Changes fields c (c.evaluate field).1 := by
  cases hfind : c.fields.find? field with
  | none =>
    rw [evaluate_of_unregistered c hfind]
    have hinvalidated : Change fields c (c.invalidate field) := .invalidated hmem
    exact .tail (.single hinvalidated) (.forgotten hmem)
  | some state =>
    obtain ⟨rfl, hname⟩ := horderly.named field state hfind
    rw [evaluate_eq c hfind rfl hname]
    have hstate := state.evaluated_name (c.values.find? state.name) (c.generations.issued + 1)
      (c.evaluation state)
    have hlaunched := state.launched_field (c.values.find? state.name) (c.generations.issued + 1)
      (c.evaluation state)
    have hdependent := (changes_begun (c := c) hmem).tail
      (.dependent hmem (Engine.compared (c.evaluation state)))
    have hstored := hdependent.trans (Changes.stored (by rwa [hstate]) (by rwa [hstate]))
    refine hstored.tail (.launched fun inquiry hinquiry => ?_)
    rwa [hlaunched inquiry hinquiry]

theorem changes_evaluateAll (horderly : c.Orderly) (items : List String)
    (hsub : ∀ field ∈ items, field ∈ fields) : Changes fields c (c.evaluateAll items).1 := by
  induction items generalizing c with
  | nil => exact .refl
  | cons head rest ih =>
    have hhead := changes_evaluate horderly (hsub head List.mem_cons_self)
    rw [evaluateAll]
    generalize c.evaluate head = evaluated at hhead
    obtain ⟨d, result⟩ := evaluated
    cases result with
    | error e => exact hhead
    | ok =>
      have hrest := ih (horderly.changes hhead) fun field hmem => hsub field (List.mem_cons_of_mem _ hmem)
      exact hhead.trans hrest

/-- The evaluation of a field in place of the one that waits. -/
theorem changes_again (horderly : c.Orderly) (hmem : field ∈ fields) :
    Changes fields c ((c.cancel field).evaluate field).1 := by
  have hcancelled : Change fields c (c.cancel field) := .cancelled hmem
  exact .head hcancelled (changes_evaluate (horderly.change hcancelled) hmem)

theorem changes_schedule (horderly : c.Orderly) (hmem : field ∈ fields) (delay : Nat) :
    Changes fields c (c.schedule field delay) := by
  by_cases hdelay : delay = 0
  · subst hdelay
    rw [schedule_zero]
    exact (changes_again horderly hmem).retain _
  · rw [schedule_succ c field hdelay]
    exact .single (.delayed hmem delay)

/-! ## Operations on single fields -/

theorem changes_suspend (hmem : state.name ∈ fields) (hname : state.name ≠ "") :
    Changes fields c (c.suspend state) := by
  have hcancelled : Changes fields c (c.cancel state.name) := .single (.cancelled hmem)
  have hinvalidated := hcancelled.tail (.invalidated hmem)
  have hput : Changes fields c (Context.put _ state.suspended) :=
    hinvalidated.tail (.state hmem hname)
  exact hput.tail (.dismissed hmem)

theorem changes_redepend (hmem : state.name ∈ fields) :
    Changes fields c (c.redepend state) := by
  have hindependent : Change fields c
      { c with dependencies := (c.dependencies.removeDependent state.name).1 } := .independent hmem
  exact .tail (.single hindependent) (.dependent hmem state.targets)

theorem changes_setRules (horderly : c.Orderly) (hmem : field ∈ fields) (rules : String) :
    Changes fields c (c.setRules field rules).1 := by
  unfold setRules
  cases c.compile rules with
  | error e => exact .refl
  | ok compiled =>
    cases hfind : c.fields.find? field with
    | none => exact .refl
    | some state =>
      obtain ⟨rfl, hname⟩ := horderly.named field state hfind
      have hredepend : Changes fields c ((c.note (.ruled state.name)).redepend
          (state.withRules rules compiled)) :=
        Relation.ReflTransGen.trans (Changes.note _) (changes_redepend hmem)
      dsimp only
      split
      · exact hredepend.trans (changes_suspend hmem hname)
      · have hput : Changes fields c (Context.put _ (state.ruled rules compiled)) :=
          hredepend.tail (.state hmem hname)
        exact hput.trans (changes_evaluate (horderly.changes hput) hmem)

theorem changes_withChange (hmem : state.name ∈ fields) (hname : state.name ≠ "")
    (value : Option String) : Changes fields c (c.withChange state value) := by
  have hput : Change fields c (c.put state.changed) := .state hmem hname
  exact (Relation.ReflTransGen.tail (.single hput) (.value hmem value)).trans (Changes.note _)

/-- A new value is about its field and about the fields that depend on it. -/
theorem changes_change (horderly : c.Orderly) (hmem : field ∈ fields)
    (hdependents : ∀ dependent ∈ c.dependencies.dependentsOf field, dependent ∈ fields)
    (value : Option String) : Changes fields c (c.change field value).1 := by
  cases hfind : c.fields.find? field with
  | none =>
    unfold change
    rw [hfind]
  | some state =>
    obtain ⟨rfl, hname⟩ := horderly.named field state hfind
    have hchange : Changes fields c (c.withChange state value) :=
      changes_withChange hmem hname value
    have hrescheduled : Changes fields c (c.rescheduled state value) := by
      unfold rescheduled
      split
      · exact hchange
      · exact hchange.trans (changes_schedule (horderly.changes hchange) hmem _)
    rw [change_eq hfind rfl]
    refine hrescheduled.trans (Changes.foldl _ ?_ (horderly.changes hrescheduled))
    intro d hd dependent hdependent
    exact changes_schedule hd (hdependents dependent hdependent) 0

theorem changes_setDisabled (horderly : c.Orderly) (hmem : field ∈ fields) (disabled : Bool) :
    Changes fields c (c.setDisabled field disabled).1 := by
  unfold setDisabled
  cases hfind : c.fields.find? field with
  | none => exact .refl
  | some state =>
    obtain ⟨rfl, hname⟩ := horderly.named field state hfind
    cases disabled with
    | true =>
      have hsuspend : Changes fields (c.note (.disabled state.name))
          ((c.note (.disabled state.name)).suspend { state with disabled := true }) :=
        changes_suspend hmem hname
      exact Relation.ReflTransGen.trans (Changes.note _) hsuspend
    | false =>
      have hput : Change fields c (c.put state.enabled) := .state hmem hname
      exact .head hput (changes_evaluate (horderly.change hput) hmem)

theorem changes_validate (horderly : c.Orderly) (hmem : field ∈ fields) :
    Changes fields c (c.validate field).1 := by
  unfold validate
  cases hfind : c.fields.find? field with
  | none => exact .refl
  | some state =>
    obtain ⟨rfl, hname⟩ := horderly.named field state hfind
    have hput : Change fields c (c.put { state with touched := true }) := .state hmem hname
    have hagain := changes_again (horderly.change hput) hmem
    have hall := Relation.ReflTransGen.head hput hagain
    dsimp only
    generalize ((c.put { state with touched := true }).cancel state.name).evaluate state.name =
      evaluated at hall
    obtain ⟨d, result⟩ := evaluated
    cases result with
    | error e => exact hall
    | ok =>
      dsimp only
      cases d.report? state.name <;> exact hall

/-! ## Operations on forms -/

theorem changes_flush (horderly : c.Orderly) (items : List String)
    (hsub : ∀ field ∈ items, field ∈ fields) : Changes fields c (c.flush items).1 := by
  induction items generalizing c with
  | nil => exact .refl
  | cons head rest ih =>
    have hsub' : ∀ field ∈ rest, field ∈ fields :=
      fun field hmem => hsub field (List.mem_cons_of_mem _ hmem)
    have hhead := changes_again horderly (hsub head List.mem_cons_self)
    rw [flush]
    split
    · generalize (c.cancel head).evaluate head = evaluated at hhead
      obtain ⟨d, result⟩ := evaluated
      cases result with
      | error e => exact hhead
      | ok => exact hhead.trans (ih (horderly.changes hhead) hsub')
    · exact ih horderly hsub'

theorem changes_reveal (horderly : c.Orderly) (hmem : field ∈ fields) :
    Changes fields c (c.reveal field) := by
  unfold reveal
  cases hfind : c.fields.find? field with
  | none => exact .refl
  | some state =>
    obtain ⟨rfl, hname⟩ := horderly.named field state hfind
    have hrevealed := FieldState.name_of_setup state.setup_revealed
    dsimp only
    split
    · exact .refl
    · exact .single (.state (by rwa [hrevealed]) (by rwa [hrevealed]))

theorem changes_checkForm (horderly : c.Orderly) (form : String) :
    Changes (c.forms.fields form) c (c.checkForm form).1 := by
  have hflush := changes_flush horderly (c.forms.fields form) fun _ hmem => hmem
  unfold checkForm
  dsimp only
  generalize c.flush (c.forms.fields form) = flushed at hflush
  obtain ⟨d, result⟩ := flushed
  cases result with
  | error e => exact hflush
  | ok =>
    refine hflush.trans (Changes.foldl _ ?_ (horderly.changes hflush))
    intro d hd field hmem
    exact changes_reveal hd hmem

theorem changes_outdate (hmem : field ∈ fields) : Changes fields c (c.outdate field) := by
  have hcancelled : Change fields c (c.cancel field) := .cancelled hmem
  exact .tail (.single hcancelled) (.invalidated hmem)

theorem changes_renew (horderly : c.Orderly) (hmem : field ∈ fields) (emptied : Bool) :
    Changes fields c (renew emptied c field) := by
  have hvalue : Changes fields c
      (if emptied then { c with values := c.values.set field none } else c) := by
    split
    · exact .single (.value hmem none)
    · exact .refl
  have horderly' := horderly.changes hvalue
  unfold renew
  dsimp only
  generalize (if emptied then { c with values := c.values.set field none } else c) = d
    at hvalue horderly'
  cases hfind : d.fields.find? field with
  | none => exact hvalue
  | some state =>
    obtain ⟨rfl, hname⟩ := horderly'.named field state hfind
    have hput : Change fields (d.note (.reset state.name)) ((d.note (.reset state.name)).put
        (state.renewed d.config.preValidate)) := .state hmem hname
    exact (hvalue.trans (Changes.note _)).tail hput

/-- The entries of a form are those of its fields. -/
theorem Sound.mem_fields_of_entry (hsound : c.Sound) {entry : SummaryEntry}
    (hmem : entry ∈ c.summary.entries) (hform : entry.form = some form) :
    entry.field ∈ c.forms.fields form := by
  have hentry : c.summary.get? entry.field = some entry :=
    (Summary.get?_eq_some_iff hsound.regular.summary).2 ⟨hmem, rfl⟩
  rw [hsound.regular.forms.mem_iff, ← hform]
  exact hsound.entry_form hentry

/-- The fields of a form look new. -/
theorem changes_renewedForm (hsound : c.Sound) (form : String) (emptied : Bool) :
    Changes (c.forms.fields form) c (c.renewedForm form emptied) := by
  have houtdated : Changes (c.forms.fields form) c ((c.forms.fields form).foldl outdate c) :=
    .foldl _ (fun d hd field hmem => changes_outdate hmem) hsound.orderly
  have hsummary : ((c.forms.fields form).foldl outdate c).summary = c.summary :=
    List.foldlRecOn (motive := fun d : Context => d.summary = c.summary) _ _ rfl
      fun d hd field _ => hd
  have hcleared : Changes (c.forms.fields form) c (Context.clearErrors _ form) :=
    houtdated.tail (.cleared fun entry hmem hform =>
      hsound.mem_fields_of_entry (hsummary ▸ hmem) hform)
  exact hcleared.trans (Changes.foldl _ (fun d hd field hmem => changes_renew hd hmem emptied)
    (hsound.orderly.changes hcleared))

/-- A reset that keeps the fields of a form. -/
theorem changes_resetForm (hsound : c.Sound) (form : String) (emptied : Bool) :
    Changes (c.forms.fields form) c (c.resetForm form { emptyValues := emptied }).1 := by
  have hfields : ∀ field ∈ c.forms.fields form, field ∈ c.forms.fields form := fun _ hmem => hmem
  have hrenewed := changes_renewedForm hsound form emptied
  exact hrenewed.trans (changes_evaluateAll (hsound.orderly.changes hrenewed) _ hfields)

/-! ## Fields that come and go -/

/-- A field that is not registered is in no form. -/
theorem Sound.forms_remove_of_unregistered (hsound : c.Sound)
    (hfind : c.fields.find? field = none) : c.forms.remove field = c.forms := by
  have hform : c.forms.formOf? field = none := (hsound.absent hfind).form
  rw [Forms.remove, hform]

/-- A field that is removed has left its form. -/
theorem changes_remove (hsound : c.Sound) (hmem : field ∈ fields) :
    Changes fields { c with forms := c.forms.remove field } (c.remove field) := by
  cases hfind : c.fields.find? field with
  | none =>
    rw [remove_of_unregistered hfind, hsound.forms_remove_of_unregistered hfind]
    have hcancelled : Change fields c (c.cancel field) := .cancelled hmem
    exact .tail (.single hcancelled) (.forgotten hmem)
  | some state =>
    rw [remove_of_registered hfind]
    have hforgotten : Change fields { c with forms := c.forms.remove field } _ := .forgotten hmem
    have hcancelled := Relation.ReflTransGen.tail (.single hforgotten) (.cancelled hmem)
    have hdropped := hcancelled.tail (.dropped hmem)
    have hvalue := hdropped.tail (.value hmem none)
    have hdismissed := hvalue.tail (.dismissed hmem)
    have hindependent := hdismissed.tail (.independent hmem)
    exact hindependent.trans (Changes.note (.removed field))

/-- The context without a field, if it is there. -/
def vacated (c : Context) (field : String) : Context :=
  if c.isRegistered field then c.remove field else c

theorem find?_vacated (c : Context) (field : String) :
    (c.vacated field).fields.find? field = none := by
  unfold vacated
  split
  · exact find?_remove_self c field
  · rename_i hregistered
    simpa [isRegistered, Assoc.has] using hregistered

theorem Sound.vacated (hsound : c.Sound) (field : String) : (c.vacated field).Sound := by
  unfold Context.vacated
  split
  · exact (evolves_remove hsound field).sound hsound
  · exact hsound

theorem changes_vacated (hsound : c.Sound) (hmem : field ∈ fields) :
    Changes fields { c with forms := c.forms.remove field } (c.vacated field) := by
  unfold vacated
  split
  · exact changes_remove hsound hmem
  · rename_i hregistered
    have hfind : c.fields.find? field = none := by
      simpa [isRegistered, Assoc.has] using hregistered
    rw [hsound.forms_remove_of_unregistered hfind]

/-- The context with the dependencies and the form of a field that is registered. -/
def placed (c : Context) (registration : Registration) (compiled : Rule.Compiled) : Context :=
  { c with forms := registration.place c.forms }.depend registration.name
    (registration.state compiled c.config).targets

theorem enroll_eq (c : Context) (registration : Registration) (compiled : Rule.Compiled) :
    c.enroll registration compiled =
      (match registration.value with
      | some value =>
        { c.placed registration compiled with
          values := c.values.set registration.name (some value) }
      | none => c.placed registration compiled).put (registration.state compiled c.config) := by
  unfold enroll placed Registration.place
  cases registration.form <;> cases registration.value <;> rfl

theorem changes_enroll (registration : Registration) (compiled : Rule.Compiled)
    (hname : registration.name ≠ "") (hmem : registration.name ∈ fields) :
    Changes fields { c with forms := registration.place c.forms }
      (c.enroll registration compiled) := by
  have hplaced : Change fields { c with forms := registration.place c.forms }
      (c.placed registration compiled) := .dependent hmem _
  rw [enroll_eq]
  cases registration.value with
  | none => exact .tail (.single hplaced) (.state hmem hname)
  | some value =>
    have hvalue := Relation.ReflTransGen.tail (.single hplaced) (.value hmem (some value))
    exact hvalue.tail (.state hmem hname)

/-- A registration is refused, or it makes room for the field, enrolls and evaluates it. -/
theorem register_cases (c : Context) (registration : Registration) :
    (∃ e, c.register registration = (c, .error e) ∧
      (registration.name = "" ∨ c.compile registration.rules = .error e)) ∨
    ∃ compiled, registration.name ≠ "" ∧ c.compile registration.rules = .ok compiled ∧
      c.register registration =
        ((c.vacated registration.name).enroll registration compiled).evaluate
          registration.name := by
  unfold register
  split
  · rename_i hempty
    exact .inl ⟨_, rfl, .inl (by simpa using hempty)⟩
  · rename_i hname
    have hname : registration.name ≠ "" := fun h => hname (by rw [h]; rfl)
    cases hcompile : c.compile registration.rules with
    | error e => exact .inl ⟨e, rfl, .inr rfl⟩
    | ok compiled => exact .inr ⟨compiled, hname, rfl, rfl⟩

/-- A field that is registered enters its form when it has left the one that it was
in. -/
theorem changes_register (hsound : c.Sound) (registration : Registration)
    (compiled : Rule.Compiled) (hname : registration.name ≠ "")
    (hmem : registration.name ∈ fields) :
    Changes fields
      { c.vacated registration.name with
        forms := registration.place (c.vacated registration.name).forms }
      (((c.vacated registration.name).enroll registration compiled).evaluate
        registration.name).1 := by
  have hvacated := (hsound.vacated registration.name).orderly
  have henroll := changes_enroll (c := c.vacated registration.name) registration compiled hname hmem
  have horderly : Orderly { c.vacated registration.name with
      forms := registration.place (c.vacated registration.name).forms } :=
    ⟨hvacated.named, hvacated.clock⟩
  exact henroll.trans (changes_evaluate (horderly.changes henroll) hmem)

/-! ## What happens without an operation -/

theorem changes_conclude (horderly : c.Orderly) {inquiry : Inquiry}
    (hmem : inquiry.field ∈ fields) (results : Results) :
    Changes fields c (c.conclude inquiry results) := by
  by_cases hcurrent : c.generations.current? inquiry.field = some inquiry.generation
  · cases hfind : c.fields.find? inquiry.field with
    | none =>
      unfold conclude
      rw [hfind]
      split <;> exact .refl
    | some state =>
      obtain ⟨hstate, hname⟩ := horderly.named _ state hfind
      rw [conclude_eq hfind (by rwa [hstate]) hcurrent]
      have hconcluded := FieldState.name_of_setup (state.setup_concluded c.engine
        inquiry.evaluation (c.engine.collect inquiry.field results))
      rw [hstate] at hconcluded
      have hnoted : Changes fields c (c.note (.concluded inquiry.field inquiry.generation)) :=
        .note _
      refine Changes.retain (hnoted.trans (Changes.stored ?_ ?_)) _
      · rwa [hconcluded]
      · rwa [hconcluded]
  · rw [conclude_of_stale hcurrent]

theorem changes_fire (horderly : c.Orderly) {event : Event} (hmem : event.field ∈ fields) :
    Changes fields c (c.fire event) := by
  cases event with
  | evaluate field => exact (changes_evaluate horderly hmem).retain _
  | reply inquiry results => exact changes_conclude horderly hmem results

/-- A timer runs out. -/
theorem changes_take (horderly : c.Orderly) {before after : List (Timer Event)}
    {timer : Timer Event} (htimers : c.clock.timers = before ++ timer :: after)
    (hmem : timer.event.field ∈ fields) :
    Changes fields c ((c.atInstant c.clock.now (before ++ after)).fire timer.event) := by
  have hfired : Change fields c (c.atInstant c.clock.now (before ++ after)) := .fired htimers hmem
  exact .head hfired (changes_fire (horderly.change hfired) hmem)

/-- The callbacks of an inquiry are asked. -/
theorem changes_listen {before after : List Inquiry} {inquiry : Inquiry}
    (hready : c.ready = before ++ inquiry :: after) (hmem : inquiry.field ∈ fields)
    (replies : Replies) :
    Changes fields c ({ c with ready := before ++ after }.listen inquiry replies) := by
  have hasked : Change fields c { c with ready := before ++ after } := .asked hready hmem
  exact Relation.ReflTransGen.tail (.tail (.single hasked)
    (.aside _ _ (c.asked ++ c.requests inquiry) _)) (.awaited hmem replies.delay replies.results)

theorem changes_await (horderly : c.Orderly) {inquiry : Inquiry} (hmem : inquiry.field ∈ fields)
    (replies : Replies) : Changes fields c (c.await inquiry replies) := by
  unfold await
  split
  · exact changes_conclude horderly hmem replies.results
  · exact .single (.awaited hmem replies.delay replies.results)

theorem changes_ask (horderly : c.Orderly) {inquiry : Inquiry} (hmem : inquiry.field ∈ fields) :
    Changes fields c (c.ask inquiry) := by
  have haside : Change fields c { c with asked := c.asked ++ c.requests inquiry } :=
    .aside c.callbacks c.errors (c.asked ++ c.requests inquiry) c.journal
  exact .head haside (changes_await (horderly.change haside) hmem _)

theorem changes_ready (inquiries : List Inquiry) :
    ∀ {c : Context}, c.ready = inquiries → (∀ inquiry ∈ inquiries, inquiry.field ∈ fields) →
      Changes fields c { c with ready := [] } := by
  induction inquiries with
  | nil =>
    intro c hready _
    rw [← hready]
  | cons head rest ih =>
    intro c hready hmem
    have hasked : Change fields c { c with ready := [] ++ rest } :=
      .asked hready (hmem head List.mem_cons_self)
    exact .head hasked (ih rfl fun inquiry h => hmem inquiry (List.mem_cons_of_mem head h))

theorem changes_settle (horderly : c.Orderly)
    (hready : ∀ inquiry ∈ c.ready, inquiry.field ∈ fields) : Changes fields c c.settle := by
  have hempty : Changes fields c { c with ready := [] } := changes_ready c.ready rfl hready
  refine hempty.trans (Changes.foldl _ ?_ (horderly.changes hempty))
  intro d hd inquiry hmem
  exact changes_ask hd (hready inquiry hmem)

/-! ## What all happenings keep -/

/-- What every small change keeps, whatever forms the fields are in, and at whatever
time. -/
structure Kept (motive : Context → Prop) : Prop where
  forms : ∀ {c : Context} (forms : Forms), motive c → motive { c with forms }
  change : ∀ {fields : List String} {c d : Context}, Change fields c d → motive c → motive d
  wait : ∀ {c : Context} (now : Nat), motive c → motive (c.atInstant now c.clock.timers)

namespace Kept

variable {motive : Context → Prop}

theorem changes (hkept : Kept motive) (hchanges : Changes fields c d) (hc : motive c) :
    motive d := by
  induction hchanges with
  | refl => exact hc
  | tail _ hlast ih => exact hkept.change hlast ih

theorem foldl_remove (hkept : Kept motive) (items : List String) :
    ∀ {c : Context}, c.Sound → motive c → motive (items.foldl remove c) := by
  induction items with
  | nil => exact fun _ hc => hc
  | cons head rest ih =>
    intro c hsound hc
    refine ih ((evolves_remove hsound head).sound hsound) ?_
    exact hkept.changes (changes_remove hsound (List.mem_singleton_self head)) (hkept.forms _ hc)

theorem register (hkept : Kept motive) (hsound : c.Sound) (hc : motive c)
    (registration : Registration) : motive (c.register registration).1 := by
  rcases c.register_cases registration with ⟨e, hrefused, -⟩ | ⟨compiled, hname, -, haccepted⟩
  · rwa [hrefused]
  · have hone := List.mem_singleton_self registration.name
    have hvacated := hkept.changes (changes_vacated hsound hone) (hkept.forms _ hc)
    rw [haccepted]
    exact hkept.changes (changes_register hsound registration compiled hname hone)
      (hkept.forms _ hvacated)

theorem perform (hkept : Kept motive) (hsound : c.Sound) (hc : motive c) (operation : Operation)
    (hnow : ∀ ms, operation ≠ .advance ms) : motive (c.perform operation).1 := by
  have horderly := hsound.orderly
  have hone : ∀ field : String, field ∈ [field] := List.mem_singleton_self
  have hchange : ∀ field value, motive (c.change field value).1 := fun field value =>
    hkept.changes (changes_change horderly List.mem_cons_self
      (fun dependent => List.mem_cons_of_mem field) value) hc
  have haside : ∀ callbacks errors, motive { c with callbacks, errors } := fun callbacks errors => by
    have hchange : Change [] c { c with callbacks, errors } :=
      .aside callbacks errors c.asked c.journal
    exact hkept.change hchange hc
  cases operation with
  | register registration => exact hkept.register hsound hc registration
  | unregister field => exact hkept.changes (changes_remove hsound (hone field)) (hkept.forms _ hc)
  | setRules field rules => exact hkept.changes (changes_setRules horderly (hone field) rules) hc
  | setValue field value => exact hchange field (some value)
  | clearValue field => exact hchange field none
  | setDisabled field disabled =>
    exact hkept.changes (changes_setDisabled horderly (hone field) disabled) hc
  | validate field => exact hkept.changes (changes_validate horderly (hone field)) hc
  | checkForm form => exact hkept.changes (changes_checkForm horderly form) hc
  | resetForm form options =>
    obtain ⟨emptied, removing⟩ := options
    cases removing with
    | true =>
      have hremoved := hkept.foldl_remove (c.forms.fields form) hsound hc
      let removed := (c.forms.fields form).foldl remove c
      have hcleared : Change (removed.summary.entries.map (·.field)) removed
          (removed.clearErrors form) := .cleared fun _ hmem _ => List.mem_map_of_mem hmem
      exact hkept.change hcleared hremoved
    | false => exact hkept.changes (changes_resetForm hsound form emptied) hc
  | advance ms => exact absurd rfl (hnow ms)
  | setCallback name callback => exact haside (c.callbacks.put name callback) c.errors
  | removeCallback name => exact haside (c.callbacks.drop name) c.errors
  | takeErrors => exact haside c.callbacks []

theorem next (hkept : Kept motive) (hsound : c.Sound) (hc : motive c) (hnext : c.Next d) :
    motive d := by
  cases hnext with
  | operation operation hnow => exact hkept.perform hsound hc operation hnow
  | ask hready replies hreplies =>
    exact hkept.changes (changes_listen hready (List.mem_singleton_self _) replies) hc
  | fire htimers =>
    exact hkept.changes (changes_take hsound.orderly htimers (List.mem_singleton_self _)) hc
  | wait now => exact hkept.wait now hc

theorem leads (hkept : Kept motive) (hsound : c.Sound) (hc : motive c) (hleads : c.Leads d) :
    motive d := by
  induction hleads with
  | refl => exact hc
  | tail hfirst hlast ih => exact hkept.next ((Leads.evolves hfirst hsound).sound hsound) ih hlast

end Kept

/-- The settings of a context never change. -/
theorem settings_of_leads (hsound : c.Sound) (hleads : c.Leads d) :
    d.config = c.config ∧ d.translator = c.translator := by
  refine Kept.leads (motive := fun d => d.config = c.config ∧ d.translator = c.translator)
    ⟨fun _ hd => hd, fun hchange hd => ?_, fun _ hd => hd⟩ hsound ⟨rfl, rfl⟩ hleads
  cases hchange <;> exact hd

end Context

end FieldRules
