import FieldRules.Proofs.Changes

/-!
# Operations touch only what they are about

All fields share one record of states, one clock, one counter of generations and
one ordered summary.  Nevertheless an operation changes what is known about the
fields that it is about, and nothing else.

* `Context.Untouched`: what it means that other fields are as they were.
* `Change.untouched`: every small change leaves them so, and thus every operation
  does (`untouched_perform`).
* `Context.Touches`: what can happen to a context, with the fields that it is about.
* `untouched_of_leads`: however many such happenings there are, the fields that none
  of them is about stay as they were.
-/

namespace FieldRules

/-! ## Lists without some of their items -/

namespace Dependencies

/-- An edge replaces one of the same dependent. -/
theorem filter_putEdge {fields : List String} {edge : Dependency} (hmem : edge.dependent ∈ fields)
    (edges : List Dependency) :
    (putEdge edge edges).filter (·.dependent ∉ fields) = edges.filter (·.dependent ∉ fields) := by
  induction edges with
  | nil => simp [putEdge, hmem]
  | cons head rest ih =>
    rw [putEdge]
    split
    · rename_i hhead
      have hreplaced : head.dependent ∈ fields := hhead.1 ▸ hmem
      simp [hmem, hreplaced]
    · simp only [List.filter_cons, ih]

theorem filter_register {fields : List String} {edge : Dependency} (hmem : edge.dependent ∈ fields)
    (dependencies : Dependencies) :
    (dependencies.register edge).edges.filter (·.dependent ∉ fields) =
      dependencies.edges.filter (·.dependent ∉ fields) :=
  filter_putEdge hmem dependencies.edges

end Dependencies

/-- What is left of a list without one key is left without several ones. -/
theorem filter_filter_notMem {α : Type} (key : α → String) {fields : List String} {field : String}
    (hmem : field ∈ fields) (items : List α) :
    (items.filter (key · ≠ field)).filter (key · ∉ fields) = items.filter (key · ∉ fields) := by
  rw [List.filter_filter]
  refine List.filter_congr fun item _ => ?_
  by_cases hkey : key item ∈ fields
  · simp [hkey]
  · have hne : key item ≠ field := fun h => hkey (h ▸ hmem)
    simp [hkey, hne]

namespace Summary

/-- An entry replaces the one of its field. -/
theorem filter_putEntry {fields : List String} {entry : SummaryEntry} (hmem : entry.field ∈ fields)
    (entries : List SummaryEntry) :
    (putEntry entry entries).filter (·.field ∉ fields) = entries.filter (·.field ∉ fields) := by
  induction entries with
  | nil => simp [putEntry, hmem]
  | cons head rest ih =>
    rw [putEntry]
    split
    · rename_i hhead
      have hreplaced : head.field ∈ fields := hhead ▸ hmem
      simp [hmem, hreplaced]
    · simp only [List.filter_cons, ih]

theorem filter_followed {fields : List String} {state : FieldState} (hmem : state.name ∈ fields)
    (summary : Summary) :
    (summary.followed state).entries.filter (·.field ∉ fields) =
      summary.entries.filter (·.field ∉ fields) := by
  unfold followed
  split
  · exact filter_filter_notMem _ hmem summary.entries
  · exact filter_putEntry hmem summary.entries

theorem filter_clearForm {fields : List String} {form : String} {summary : Summary}
    (hform : ∀ entry ∈ summary.entries, entry.form = some form → entry.field ∈ fields) :
    (summary.clearForm form).1.entries.filter (·.field ∉ fields) =
      summary.entries.filter (·.field ∉ fields) := by
  unfold clearForm
  rw [List.filter_filter]
  refine List.filter_congr fun entry hmem => ?_
  by_cases hentry : entry.form = some form
  · simp [hform entry hmem hentry]
  · simp [hentry]

end Summary

namespace Clock

variable {fields : List String}

theorem filter_insertTimer_of_mem {timer : Timer Event} (hmem : timer.event.field ∈ fields)
    (timers : List (Timer Event)) :
    (insertTimer timer timers).filter (·.event.field ∉ fields) =
      timers.filter (·.event.field ∉ fields) :=
  filter_insertTimer_of_not (by simpa using hmem) timers

/-- The timer of a field is about this field. -/
theorem Sound.filter_cancel {clock : Clock Event} (hsound : clock.Sound) {field : String}
    (hmem : field ∈ fields) :
    (clock.cancel field).timers.filter (·.event.field ∉ fields) =
      clock.timers.filter (·.event.field ∉ fields) := by
  unfold Clock.cancel
  rw [List.filter_filter]
  refine List.filter_congr fun timer htimer => ?_
  by_cases hkey : timer.key = some field
  · have hevent : timer.event.field = field := by
      have hevent := (hsound.key_eq timer htimer).symm.trans hkey
      cases h : timer.event with
      | evaluate name =>
        rw [h] at hevent
        exact Option.some.inj hevent
      | reply inquiry results =>
        rw [h] at hevent
        cases hevent
    simp [hevent, hmem]
  · simp [hkey]

end Clock

namespace Context

variable {c c' d : Context} {fields : List String} {field other form : String}

/-! ## What is left as it was -/

/-- The second context knows the same as the first one about all but the given
fields: their states, values, generations and forms.  Their dependencies, entries,
timers and inquiries are also in the same order. -/
structure Untouched (fields : List String) (c c' : Context) : Prop where
  state : ∀ other ∉ fields, c'.fields.find? other = c.fields.find? other := by intros; rfl
  value : ∀ other ∉ fields, c'.values.find? other = c.values.find? other := by intros; rfl
  generation : ∀ other ∉ fields,
    c'.generations.current? other = c.generations.current? other := by intros; rfl
  form : ∀ other ∉ fields, c'.forms.formOf? other = c.forms.formOf? other := by intros; rfl
  places : ∀ form, (c'.forms.fields form).filter (· ∉ fields) =
    (c.forms.fields form).filter (· ∉ fields) := by intros; rfl
  dependencies : c'.dependencies.edges.filter (·.dependent ∉ fields) =
    c.dependencies.edges.filter (·.dependent ∉ fields) := by rfl
  entries : c'.summary.entries.filter (·.field ∉ fields) =
    c.summary.entries.filter (·.field ∉ fields) := by rfl
  timers : c'.clock.timers.filter (·.event.field ∉ fields) =
    c.clock.timers.filter (·.event.field ∉ fields) := by rfl
  ready : c'.ready.filter (·.field ∉ fields) = c.ready.filter (·.field ∉ fields) := by rfl

namespace Untouched

theorem refl (fields : List String) (c : Context) : Untouched fields c c where

theorem trans (hfirst : Untouched fields c c') (hsecond : Untouched fields c' d) :
    Untouched fields c d where
  state other hnot := (hsecond.state other hnot).trans (hfirst.state other hnot)
  value other hnot := (hsecond.value other hnot).trans (hfirst.value other hnot)
  generation other hnot := (hsecond.generation other hnot).trans (hfirst.generation other hnot)
  form other hnot := (hsecond.form other hnot).trans (hfirst.form other hnot)
  places form := (hsecond.places form).trans (hfirst.places form)
  dependencies := hsecond.dependencies.trans hfirst.dependencies
  entries := hsecond.entries.trans hfirst.entries
  timers := hsecond.timers.trans hfirst.timers
  ready := hsecond.ready.trans hfirst.ready

/-- Two lists that are equal without some keys are equal without more keys. -/
theorem filter_of_subset {α : Type} (key : α → String) {fields more : List String}
    {items others : List α} (hsub : fields ⊆ more)
    (heq : items.filter (key · ∉ fields) = others.filter (key · ∉ fields)) :
    items.filter (key · ∉ more) = others.filter (key · ∉ more) := by
  have hmore : ∀ items : List α,
      items.filter (key · ∉ more) = (items.filter (key · ∉ fields)).filter (key · ∉ more) := by
    intro items
    rw [List.filter_filter]
    refine List.filter_congr fun item _ => ?_
    by_cases hkey : key item ∈ fields
    · simp [hkey, hsub hkey]
    · simp [hkey]
  rw [hmore items, hmore others, heq]

theorem mono {more : List String} (huntouched : Untouched fields c c') (hsub : fields ⊆ more) :
    Untouched more c c' where
  state other hnot := huntouched.state other fun hmem => hnot (hsub hmem)
  value other hnot := huntouched.value other fun hmem => hnot (hsub hmem)
  generation other hnot := huntouched.generation other fun hmem => hnot (hsub hmem)
  form other hnot := huntouched.form other fun hmem => hnot (hsub hmem)
  places form := filter_of_subset id hsub (huntouched.places form)
  dependencies := filter_of_subset _ hsub huntouched.dependencies
  entries := filter_of_subset _ hsub huntouched.entries
  timers := filter_of_subset _ hsub huntouched.timers
  ready := filter_of_subset _ hsub huntouched.ready

/-- A field leaves its form. -/
theorem leave (hforms : c.forms.Sound) (hmem : field ∈ fields) :
    Untouched fields c { c with forms := c.forms.remove field } where
  form other hnot := Forms.formOf?_remove_of_ne _ fun h => hnot (h ▸ hmem)
  places form := by
    rw [Forms.fields_remove hforms]
    exact filter_filter_notMem id hmem _

/-- A field that is in no form enters one. -/
theorem enter (hform : c.forms.formOf? field = none) (hmem : field ∈ fields) (form : String) :
    Untouched fields c { c with forms := c.forms.insert form field } where
  form other hnot := Forms.formOf?_insert_of_ne _ _ fun h => hnot (h ▸ hmem)
  places name := by
    have hremove : c.forms.remove field = c.forms := by rw [Forms.remove, hform]
    rw [Forms.fields_insert (by simp [hform]), hremove]
    split
    · simp [hmem]
    · rfl

end Untouched

/-- The field of a small change is none of the others. -/
theorem ne_of_notMem (hmem : field ∈ fields) (hnot : other ∉ fields) : field ≠ other :=
  fun h => hnot (h ▸ hmem)

theorem Change.untouched (hchange : Change fields c c') (hclock : c.clock.Sound) :
    Untouched fields c c' := by
  cases hchange with
  | state hmem hname =>
    exact { state := fun other hnot => Assoc.find?_put_of_ne _ _ (ne_of_notMem hmem hnot) }
  | dropped hmem =>
    exact { state := fun other hnot => Assoc.find?_drop_of_ne _ (ne_of_notMem hmem hnot) }
  | value hmem value =>
    exact { value := fun other hnot => Values.find?_set_of_ne _ _ (ne_of_notMem hmem hnot) }
  | invalidated hmem =>
    exact { generation := fun other hnot =>
      Generations.current?_begin_of_ne _ (ne_of_notMem hmem hnot) }
  | forgotten hmem =>
    exact { generation := fun other hnot =>
      Generations.current?_forget_of_ne _ (ne_of_notMem hmem hnot) }
  | dependent hmem targets =>
    refine { dependencies := ?_ }
    exact List.foldlRecOn (motive := fun dependencies : Dependencies =>
      dependencies.edges.filter (·.dependent ∉ fields) =
        c.dependencies.edges.filter (·.dependent ∉ fields)) targets _ rfl
      fun dependencies ih target _ => (Dependencies.filter_register hmem dependencies).trans ih
  | independent hmem => exact { dependencies := filter_filter_notMem _ hmem _ }
  | followed hmem => exact { entries := Summary.filter_followed hmem _ }
  | dismissed hmem => exact { entries := filter_filter_notMem _ hmem _ }
  | cleared hform => exact { entries := Summary.filter_clearForm hform }
  | launched hmem =>
    refine { ready := ?_ }
    rw [launch, List.filter_append, List.append_right_eq_self, List.filter_eq_nil_iff]
    intro inquiry hinquiry
    simpa using hmem inquiry hinquiry
  | asked hready hmem =>
    refine { ready := ?_ }
    rw [hready, List.filter_append, List.filter_append,
      List.filter_cons_of_neg (by simpa using hmem)]
  | cancelled hmem => exact { timers := hclock.filter_cancel hmem }
  | delayed hmem delay =>
    refine { timers := ?_ }
    exact (Clock.filter_insertTimer_of_mem hmem _).trans (hclock.filter_cancel hmem)
  | awaited hmem delay results =>
    exact { timers := Clock.filter_insertTimer_of_mem hmem _ }
  | fired htimers hmem =>
    refine { timers := ?_ }
    rw [atInstant, htimers, List.filter_append, List.filter_append,
      List.filter_cons_of_neg (by simpa using hmem)]
  | aside callbacks errors asked journal => exact {}

theorem Changes.untouched (hchanges : Changes fields c c') (horderly : c.Orderly) :
    Untouched fields c c' := by
  induction hchanges with
  | refl => exact .refl fields c
  | tail hbefore hchange ih =>
    have hclock := (horderly.changes hbefore).clock
    exact ih.trans (hchange.untouched hclock)

/-! ## Operations -/

theorem untouched_remove (hsound : c.Sound) (hmem : field ∈ fields) :
    Untouched fields c (c.remove field) := by
  have hleft := Untouched.leave hsound.regular.forms hmem
  have horderly : Orderly { c with forms := c.forms.remove field } :=
    ⟨hsound.orderly.named, hsound.orderly.clock⟩
  exact hleft.trans ((changes_remove hsound hmem).untouched horderly)

theorem untouched_vacated (hsound : c.Sound) (hmem : field ∈ fields) :
    Untouched fields c (c.vacated field) := by
  unfold vacated
  split
  · exact untouched_remove hsound hmem
  · exact .refl fields c

theorem untouched_place (registration : Registration)
    (hform : c.forms.formOf? registration.name = none) (hmem : registration.name ∈ fields) :
    Untouched fields c { c with forms := registration.place c.forms } := by
  unfold Registration.place
  cases registration.form with
  | none => exact .refl fields c
  | some form => exact .enter hform hmem form

theorem untouched_register (hsound : c.Sound) (registration : Registration)
    (hmem : registration.name ∈ fields) : Untouched fields c (c.register registration).1 := by
  rcases c.register_cases registration with ⟨e, hrefused, -⟩ | ⟨compiled, hname, -, haccepted⟩
  · rw [hrefused]
    exact .refl fields c
  · have hvacated := hsound.vacated registration.name
    have hform : (c.vacated registration.name).forms.formOf? registration.name = none :=
      (hvacated.absent (find?_vacated c registration.name)).form
    have horderly : Orderly { c.vacated registration.name with
        forms := registration.place (c.vacated registration.name).forms } :=
      ⟨hvacated.orderly.named, hvacated.orderly.clock⟩
    have hplaced := (untouched_vacated hsound hmem).trans (untouched_place registration hform hmem)
    rw [haccepted]
    exact hplaced.trans ((changes_register hsound registration compiled hname hmem).untouched
      horderly)

theorem untouched_foldl_remove (items : List String) :
    ∀ {c : Context}, c.Sound → (∀ field ∈ items, field ∈ fields) →
      Untouched fields c (items.foldl remove c) := by
  induction items with
  | nil =>
    intro c _ _
    exact .refl fields c
  | cons head rest ih =>
    intro c hsound hsub
    have hhead := untouched_remove hsound (hsub head List.mem_cons_self)
    have hremoved := (evolves_remove hsound head).sound hsound
    exact hhead.trans (ih hremoved fun field hmem => hsub field (List.mem_cons_of_mem head hmem))

/-- The errors that are cleared after the removal of all fields of a form are not
those of other fields. -/
theorem untouched_removeForm (hsound : c.Sound) (form : String) :
    Untouched (c.forms.fields form) c
      (((c.forms.fields form).foldl remove c).clearErrors form) := by
  have hremove : Evolves c ((c.forms.fields form).foldl remove c) :=
    .foldl (fun c field hsound => evolves_remove hsound field) _ hsound
  have hremoved := hremove.sound hsound
  have huntouched := untouched_foldl_remove (c.forms.fields form) hsound fun _ hmem => hmem
  refine huntouched.trans (Change.untouched (.cleared fun entry hentry hform => ?_)
    hremoved.orderly.clock)
  -- an entry of another field would be in the form already before
  by_contra hnot
  have hmem := hremoved.mem_fields_of_entry hentry hform
  have hkept : entry.field ∈
      (((c.forms.fields form).foldl remove c).forms.fields form).filter
        (· ∉ c.forms.fields form) := by
    rw [List.mem_filter]
    exact ⟨hmem, by simpa using hnot⟩
  rw [huntouched.places form] at hkept
  exact hnot (List.mem_filter.1 hkept).1

/-- The fields that an operation is about.  A new value is also about the fields
that depend on its field. -/
def subjects (c : Context) : Operation → List String
  | .register registration => [registration.name]
  | .unregister field | .setRules field _ | .setDisabled field _ | .validate field => [field]
  | .setValue field _ | .clearValue field => field :: c.dependencies.dependentsOf field
  | .checkForm form | .resetForm form _ => c.forms.fields form
  | .advance _ | .setCallback _ _ | .removeCallback _ | .takeErrors => []

theorem untouched_perform (hsound : c.Sound) (operation : Operation)
    (hnow : ∀ ms, operation ≠ .advance ms) :
    Untouched (c.subjects operation) c (c.perform operation).1 := by
  have horderly := hsound.orderly
  have hdependents : ∀ field, ∀ dependent ∈ c.dependencies.dependentsOf field,
      dependent ∈ field :: c.dependencies.dependentsOf field :=
    fun field dependent hmem => List.mem_cons_of_mem field hmem
  cases operation with
  | register registration => exact untouched_register hsound registration List.mem_cons_self
  | unregister field => exact untouched_remove hsound List.mem_cons_self
  | setRules field rules =>
    exact (changes_setRules horderly List.mem_cons_self rules).untouched horderly
  | setValue field value =>
    exact (changes_change horderly List.mem_cons_self (hdependents field) (some value)).untouched
      horderly
  | clearValue field =>
    exact (changes_change horderly List.mem_cons_self (hdependents field) none).untouched horderly
  | setDisabled field disabled =>
    exact (changes_setDisabled horderly List.mem_cons_self disabled).untouched horderly
  | validate field => exact (changes_validate horderly List.mem_cons_self).untouched horderly
  | checkForm form => exact (changes_checkForm horderly form).untouched horderly
  | resetForm form options =>
    obtain ⟨emptied, removing⟩ := options
    cases removing with
    | true => exact untouched_removeForm hsound form
    | false => exact (changes_resetForm hsound form emptied).untouched horderly
  | advance ms => exact absurd rfl (hnow ms)
  | setCallback name callback => exact {}
  | removeCallback name => exact {}
  | takeErrors => exact {}

/-- When nothing was ready before, all that an operation makes ready is about its
own fields. -/
theorem untouched_step (hsound : c.Sound) (hready : c.ready = []) (operation : Operation)
    (hnow : ∀ ms, operation ≠ .advance ms) :
    Untouched (c.subjects operation) c (c.step operation).1 := by
  have hperform := untouched_perform hsound operation hnow
  have horderly := ((evolves_perform hsound operation hnow).sound hsound).orderly
  have hmine : ∀ inquiry ∈ (c.perform operation).1.ready,
      inquiry.field ∈ c.subjects operation := by
    have hnone := hperform.ready
    rw [hready, List.filter_nil, List.filter_eq_nil_iff] at hnone
    intro inquiry hmem
    simpa using hnone inquiry hmem
  exact hperform.trans ((changes_settle horderly hmine).untouched horderly)

/-! ## All that happens -/

/-- What can happen to a context, with the fields that it is about: an operation,
alone or with all that follows without delay, a question to the callbacks of a
field, the end of a timer of a field, and the passing of time. -/
inductive Touches (c : Context) : List String → Context → Prop where
  | operation (operation : Operation) (hnow : ∀ ms, operation ≠ .advance ms) :
      Touches c (c.subjects operation) (c.perform operation).1
  | step (operation : Operation) (hnow : ∀ ms, operation ≠ .advance ms) (hready : c.ready = []) :
      Touches c (c.subjects operation) (c.step operation).1
  | ask {before after : List Inquiry} {inquiry : Inquiry}
      (hready : c.ready = before ++ inquiry :: after) (replies : Replies)
      (hreplies : replies.map (·.1) = inquiry.evaluation.pending) :
      Touches c [inquiry.field] ({ c with ready := before ++ after }.listen inquiry replies)
  | fire {before after : List (Timer Event)} {timer : Timer Event}
      (htimers : c.clock.timers = before ++ timer :: after) :
      Touches c [timer.event.field]
        ((c.atInstant c.clock.now (before ++ after)).fire timer.event)
  | wait (now : Nat) : Touches c [] (c.atInstant now c.clock.timers)

theorem Touches.untouched (htouches : c.Touches fields c') (hsound : c.Sound) :
    Untouched fields c c' := by
  have horderly := hsound.orderly
  cases htouches with
  | operation operation hnow => exact untouched_perform hsound operation hnow
  | step operation hnow hready => exact untouched_step hsound hready operation hnow
  | ask hready replies hreplies =>
    exact (changes_listen hready List.mem_cons_self replies).untouched horderly
  | fire htimers => exact (changes_take horderly htimers List.mem_cons_self).untouched horderly
  | wait now => exact {}

theorem Touches.leads (htouches : c.Touches fields c') : c.Leads c' := by
  cases htouches with
  | operation operation hnow => exact .single (.operation operation hnow)
  | step operation hnow hready => exact leads_step c operation
  | ask hready replies hreplies => exact .single (.ask hready replies hreplies)
  | fire htimers => exact .single (.fire htimers)
  | wait now => exact .single (.wait now)

/-- Some happenings one after the other, each about some of the fields. -/
abbrev LeadsWithin (fields : List String) : Context → Context → Prop :=
  Relation.ReflTransGen fun c c' => ∃ subjects, subjects ⊆ fields ∧ c.Touches subjects c'

/-- Whatever happens for the sake of some fields, all that is known about the other
fields stays as it was. -/
theorem untouched_of_leads (hreach : c.Reachable) (hleads : LeadsWithin fields c c') :
    Untouched fields c c' := by
  induction hleads using Relation.ReflTransGen.head_induction_on with
  | refl => exact .refl fields c'
  | head hfirst _ ih =>
    obtain ⟨subjects, hsub, htouches⟩ := hfirst
    have huntouched := htouches.untouched hreach.sound
    exact (huntouched.mono hsub).trans (ih (hreach.leads htouches.leads))

/-- Three fields that are wrong: a nickname, a word, and a copy of the word. -/
def nickAndCopy : Context :=
  (start Message.english.translator { debounce := 0 } []).run
    [.register { name := "nick", rules := "required", form := some "person" },
      .register { name := "word", rules := "required", form := some "words" },
      .register { name := "copy", rules := "match:word", value := some "owl" }]

/-- The word gets a value, which also makes the copy right, and the copy is removed.
The nickname is as wrong as before. -/
theorem untouched_nick :
    nickAndCopy.summary.entries.map (·.field) = ["nick", "word", "copy"] ∧
      (nickAndCopy.step (.setValue "word" "owl")).1.summary.entries.map (·.field) = ["nick"] ∧
      Untouched ["word", "copy"] nickAndCopy
        ((nickAndCopy.step (.setValue "word" "owl")).1.step (.unregister "copy")).1 := by
  have hreach : nickAndCopy.Reachable := (Reachable.start _ _ _).run _
  refine ⟨by decide +kernel, by decide +kernel, untouched_of_leads hreach ?_⟩
  have hvalue : nickAndCopy.subjects (.setValue "word" "owl") ⊆ ["word", "copy"] := by
    decide +kernel
  have hfirst : LeadsWithin ["word", "copy"] nickAndCopy _ :=
    .single ⟨_, hvalue, .step (.setValue "word" "owl") nofun (by decide +kernel)⟩
  refine hfirst.tail ⟨_, ?_, .step (.unregister "copy") nofun (by decide +kernel)⟩
  decide +kernel

end Context

end FieldRules
