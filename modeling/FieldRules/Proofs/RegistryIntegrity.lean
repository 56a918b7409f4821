import Mathlib.Data.List.Dedup
import FieldRules.Proofs.Changes
import FieldRules.Proofs.ComparedFields
import FieldRules.Proofs.DependencyEdges
import FieldRules.Proofs.SummaryAgreement

/-!
# The registries agree

Seven tables of a context are keyed by the names of its fields.  They are changed
by different operations, and also by timers and replies that come after their
field is gone.  All the same they agree with the fields that are registered.

* `Context.Logged`: a context with the names that have been registered up to now.
* `Logged.placed`: the fields of a form stand in the order of their latest
  registrations.
* `integral_of_reachable`: all tables are in line with the registered fields.
-/

namespace FieldRules

/-- The latest place of an item is the only one that counts. -/
theorem dedup_append_singleton (items : List String) (item : String) :
    (items ++ [item]).dedup = items.dedup.filter (· ≠ item) ++ [item] := by
  induction items with
  | nil => simp
  | cons head rest ih =>
    rw [List.cons_append]
    by_cases hmem : head ∈ rest
    · rw [List.dedup_cons_of_mem (List.mem_append_left _ hmem), List.dedup_cons_of_mem hmem, ih]
    · by_cases hhead : head = item
      · rw [List.dedup_cons_of_mem (by simp [hhead]), List.dedup_cons_of_notMem hmem, ih,
          List.filter_cons_of_neg (by simp [hhead])]
      · rw [List.dedup_cons_of_notMem (by simp [hmem, hhead]), List.dedup_cons_of_notMem hmem, ih,
          List.filter_cons_of_pos (by simp [hhead]), List.cons_append]

namespace Context

variable {c : Context} {log : List String} {field form : String}

/-! ## The log of registrations -/

/-- The name that an operation registers, if it is not refused. -/
def enrolls (c : Context) : Operation → List String
  | .register registration =>
    if registration.name.isEmpty then []
    else
      match c.compile registration.rules with
      | .ok _ => [registration.name]
      | .error _ => []
  | _ => []

/-- A context that comes from an empty one, with the names of the fields that have
been registered on the way.  A name stands in the log as often as it was registered. -/
inductive Logged : List String → Context → Prop where
  | start (translator : Message.Translator) (config : EngineConfig) (callbacks : Callbacks) :
      Logged [] (start translator config callbacks)
  | operation {log : List String} {c : Context} (hlogged : Logged log c) (operation : Operation)
      (hnow : ∀ ms, operation ≠ .advance ms) :
      Logged (log ++ c.enrolls operation) (c.perform operation).1
  | ask {log : List String} {c : Context} (hlogged : Logged log c) {before after : List Inquiry}
      {inquiry : Inquiry} (hready : c.ready = before ++ inquiry :: after) (replies : Replies)
      (hreplies : replies.map (·.1) = inquiry.evaluation.pending) :
      Logged log ({ c with ready := before ++ after }.listen inquiry replies)
  | fire {log : List String} {c : Context} (hlogged : Logged log c)
      {before after : List (Timer Event)} {timer : Timer Event}
      (htimers : c.clock.timers = before ++ timer :: after) :
      Logged log ((c.atInstant c.clock.now (before ++ after)).fire timer.event)
  | wait {log : List String} {c : Context} (hlogged : Logged log c) (now : Nat) :
      Logged log (c.atInstant now c.clock.timers)

theorem Logged.reachable (hlogged : Logged log c) : c.Reachable := by
  induction hlogged with
  | start translator config callbacks => exact .start translator config callbacks
  | operation _ operation hnow ih => exact ih.leads (.single (.operation operation hnow))
  | ask _ hready replies hreplies ih => exact ih.leads (.single (.ask hready replies hreplies))
  | fire _ htimers ih => exact ih.leads (.single (.fire htimers))
  | wait _ now ih => exact ih.leads (.single (.wait now))

theorem Reachable.exists_logged (hreach : c.Reachable) : ∃ log, Logged log c := by
  obtain ⟨translator, config, callbacks, hleads⟩ := hreach
  induction hleads with
  | refl => exact ⟨[], .start translator config callbacks⟩
  | tail _ hnext ih =>
    obtain ⟨log, hlogged⟩ := ih
    cases hnext with
    | operation operation hnow => exact ⟨_, hlogged.operation operation hnow⟩
    | ask hready replies hreplies => exact ⟨_, hlogged.ask hready replies hreplies⟩
    | fire htimers => exact ⟨_, hlogged.fire htimers⟩
    | wait now => exact ⟨_, hlogged.wait now⟩

/-! ## The places in a form -/

/-- The fields of each form stand in the order of their latest registrations, and no
form is empty. -/
structure Placed (log : List String) (forms : Forms) : Prop where
  compact : forms.Compact
  fields_eq : ∀ form,
    forms.fields form = log.dedup.filter fun field => forms.formOf? field = some form

namespace Placed

variable {forms : Forms}

theorem remove (hplaced : Placed log forms) (hforms : forms.Sound) (field : String) :
    Placed log (forms.remove field) where
  compact := hplaced.compact.remove field
  fields_eq form := by
    rw [Forms.fields_remove hforms, hplaced.fields_eq, List.filter_filter]
    refine List.filter_congr fun other _ => ?_
    by_cases hother : field = other
    · subst hother
      simp [Forms.formOf?_remove_self]
    · simp [Forms.formOf?_remove_of_ne forms hother, Ne.symm hother]

/-- A field that is in no form comes last in the form that it enters. -/
theorem place (hplaced : Placed log forms) (registration : Registration)
    (hform : forms.formOf? registration.name = none) :
    Placed (log ++ [registration.name]) (registration.place forms) := by
  have hothers : ∀ form, (log.dedup.filter (· ≠ registration.name)).filter
      (fun field => forms.formOf? field = some form) = forms.fields form := by
    intro form
    rw [hplaced.fields_eq, List.filter_filter]
    refine List.filter_congr fun other _ => ?_
    by_cases hother : other = registration.name
    · simp [hother, hform]
    · simp [hother]
  unfold Registration.place
  cases registration.form with
  | none =>
    refine ⟨hplaced.compact, fun form => ?_⟩
    rw [dedup_append_singleton, List.filter_append, hothers]
    simp [hform]
  | some home =>
    refine ⟨hplaced.compact.insert home registration.name, fun form => ?_⟩
    have hremove : forms.remove registration.name = forms := by rw [Forms.remove, hform]
    have hkept : (log.dedup.filter (· ≠ registration.name)).filter
        (fun field => (forms.insert home registration.name).formOf? field = some form) =
          forms.fields form := by
      rw [← hothers form]
      refine List.filter_congr fun other hmem => ?_
      have hne : registration.name ≠ other := by
        have hfilter := (List.mem_filter.1 hmem).2
        exact fun h => by simp [h] at hfilter
      rw [Forms.formOf?_insert_of_ne forms home hne]
    rw [dedup_append_singleton, List.filter_append, hkept,
      Forms.fields_insert (by simp [hform]), hremove]
    by_cases hhome : form = home
    · simp [hhome, Forms.formOf?_insert_self]
    · simp [hhome, Ne.symm hhome, Forms.formOf?_insert_self]

end Placed

theorem forms_vacated (hsound : c.Sound) (field : String) :
    (c.vacated field).forms = c.forms.remove field :=
  (changes_vacated hsound (List.mem_singleton_self field)).forms_eq

theorem placed_foldl_remove (fields : List String) :
    ∀ {c : Context}, c.Sound → Placed log c.forms → Placed log (fields.foldl remove c).forms := by
  induction fields with
  | nil =>
    intro c _ hplaced
    exact hplaced
  | cons head rest ih =>
    intro c hsound hplaced
    have hforms : (c.remove head).forms = c.forms.remove head :=
      (changes_remove hsound (List.mem_singleton_self head)).forms_eq
    refine ih ((evolves_remove hsound head).sound hsound) ?_
    rw [hforms]
    exact hplaced.remove hsound.regular.forms head

theorem placed_register (hsound : c.Sound) (hplaced : Placed log c.forms)
    (registration : Registration) :
    Placed (log ++ c.enrolls (.register registration)) (c.register registration).1.forms := by
  rcases c.register_cases registration with
    ⟨e, hrefused, hreason⟩ | ⟨compiled, hname, hcompile, haccepted⟩
  · have hnone : c.enrolls (.register registration) = [] := by
      rcases hreason with hempty | herror
      · simp [enrolls, hempty]
      · simp [enrolls, herror]
    rw [hrefused, hnone, List.append_nil]
    exact hplaced
  · have hempty : registration.name.isEmpty = false := by
      rw [Bool.eq_false_iff, ne_eq, String.isEmpty_iff]
      exact hname
    have hone : c.enrolls (.register registration) = [registration.name] := by
      simp [enrolls, hempty, hcompile]
    have hvacated := hplaced.remove hsound.regular.forms registration.name
    have hform := Forms.formOf?_remove_self c.forms registration.name
    rw [haccepted, hone, (changes_register hsound registration compiled hname
      (List.mem_singleton_self _)).forms_eq, forms_vacated hsound]
    exact hvacated.place registration hform

theorem placed_perform (hsound : c.Sound) (hplaced : Placed log c.forms) (operation : Operation)
    (hnow : ∀ ms, operation ≠ .advance ms) :
    Placed (log ++ c.enrolls operation) (c.perform operation).1.forms := by
  have horderly := hsound.orderly
  -- the other operations register nothing and move no field
  have hkept : ∀ fields : List String, c.enrolls operation = [] →
      Changes fields c (c.perform operation).1 →
      Placed (log ++ c.enrolls operation) (c.perform operation).1.forms := by
    intro fields hnone hchanges
    rw [hnone, List.append_nil, hchanges.forms_eq]
    exact hplaced
  cases operation with
  | register registration => exact placed_register hsound hplaced registration
  | unregister field =>
    have hforms : (c.perform (.unregister field)).1.forms = c.forms.remove field :=
      (changes_remove hsound (List.mem_singleton_self field)).forms_eq
    have hnone : c.enrolls (.unregister field) = [] := rfl
    rw [hnone, List.append_nil, hforms]
    exact hplaced.remove hsound.regular.forms field
  | setRules field rules =>
    exact hkept _ rfl (changes_setRules horderly (List.mem_singleton_self field) rules)
  | setValue field value =>
    exact hkept (field :: c.dependencies.dependentsOf field) rfl <|
      changes_change horderly List.mem_cons_self (fun dependent => List.mem_cons_of_mem field) (some value)
  | clearValue field =>
    exact hkept (field :: c.dependencies.dependentsOf field) rfl <|
      changes_change horderly List.mem_cons_self (fun dependent => List.mem_cons_of_mem field) none
  | setDisabled field disabled =>
    exact hkept _ rfl (changes_setDisabled horderly (List.mem_singleton_self field) disabled)
  | validate field => exact hkept _ rfl (changes_validate horderly (List.mem_singleton_self field))
  | checkForm form => exact hkept _ rfl (changes_checkForm horderly form)
  | resetForm form options =>
    obtain ⟨emptied, removing⟩ := options
    cases removing with
    | true =>
      have hnone : c.enrolls (.resetForm form ⟨emptied, true⟩) = [] := rfl
      rw [hnone, List.append_nil]
      exact placed_foldl_remove (c.forms.fields form) hsound hplaced
    | false => exact hkept _ rfl (changes_resetForm hsound form emptied)
  | advance ms => exact absurd rfl (hnow ms)
  | setCallback name callback => exact hkept [] rfl (.single (.aside _ _ _ _))
  | removeCallback name => exact hkept [] rfl (.single (.aside _ _ _ _))
  | takeErrors => exact hkept [] rfl (.single (.aside _ _ _ _))

theorem Logged.placed (hlogged : Logged log c) : Placed log c.forms := by
  induction hlogged with
  | start translator config callbacks =>
    refine ⟨fun row hmem => ?_, fun form => ?_⟩
    · cases hmem
    · rfl
  | operation hlogged operation hnow ih =>
    exact placed_perform hlogged.reachable.sound ih operation hnow
  | ask hlogged hready replies hreplies ih => exact ih
  | fire hlogged htimers ih =>
    have hchanges := changes_take hlogged.reachable.sound.orderly htimers
      (List.mem_singleton_self _)
    rw [hchanges.forms_eq]
    exact ih
  | wait hlogged now ih => exact ih

/-! ## All tables -/

/-- The tables of a context agree with its fields.  The log tells in which order the
names have been registered; without repetitions it lists each of them at the place of
its latest registration. -/
structure Integral (c : Context) (log : List String) : Prop where
  mem_fields_iff : ∀ field state, c.fields.find? field = some state →
    ∀ form, field ∈ c.forms.fields form ↔ state.form = some form
  fields_registered : ∀ form, ∀ field ∈ c.forms.fields form, c.isRegistered field = true
  fields_once : ∀ form, (c.forms.fields form).Nodup
  fields_ordered : ∀ form, (c.forms.fields form).Sublist log.dedup
  forms_once : c.forms.names.Nodup
  mem_names_iff : ∀ form, form ∈ c.forms.names ↔ c.forms.fields form ≠ []
  dependencies_once : c.dependencies.pairs.Nodup
  mem_pairs_iff : ∀ field source, (field, source) ∈ c.dependencies.pairs ↔
    ∃ state, c.fields.find? field = some state ∧ Rule.ComparesWith state.rules source
  values_registered : ∀ field value, c.values.find? field = some value →
    c.isRegistered field = true
  waiting_registered : ∀ field, c.clock.isPending field = true → c.isRegistered field = true
  generations_registered : ∀ field generation,
    c.generations.current? field = some generation → c.isRegistered field = true
  entries_registered : ∀ entry ∈ c.summary.entries, c.isRegistered entry.field = true

theorem isRegistered_iff : c.isRegistered field = true ↔ c.fields.find? field ≠ none := by
  rw [isRegistered, Assoc.has, Option.isSome_iff_ne_none]

/-- A field that something is known about is registered. -/
theorem Sound.isRegistered_of_not_absent (hsound : c.Sound) (hknown : ¬ (c.view field).Absent) :
    c.isRegistered field = true := by
  rw [isRegistered_iff]
  intro hfind
  exact hknown (hsound.absent hfind)

/-- The dependencies of a field are those that the text of its rules names. -/
theorem Sound.comparesWith_iff (hsound : c.Sound) {state : FieldState}
    (hfind : c.fields.find? field = some state) (source : String) :
    state.ComparesWith source ↔ Rule.ComparesWith state.rules source := by
  obtain ⟨compiled, hcompile, hvalidators, -⟩ := (hsound.present hfind).compiled
  have htargets : state.targets = compiled.targets := by
    rw [FieldState.targets, hvalidators]
    rfl
  rw [← Rule.comparesWith_iff hcompile, ← htargets]
  rfl

theorem Logged.integral (hlogged : Logged log c) : c.Integral log := by
  have hsound := hlogged.reachable.sound
  have hwired := hlogged.reachable.wired
  have hplaced := hlogged.placed
  have hforms := hsound.regular.forms
  constructor
  case mem_fields_iff =>
    intro field state hfind form
    have hform : state.form = c.forms.formOf? field := (hsound.present hfind).form
    rw [hforms.mem_iff, hform]
  case fields_registered =>
    intro form field hmem
    obtain ⟨state, hfind⟩ := hsound.exists_state_of_mem hmem
    rw [isRegistered_iff, hfind]
    exact Option.some_ne_none state
  case fields_once => exact hforms.nodup
  case fields_ordered =>
    intro form
    rw [hplaced.fields_eq]
    exact List.filter_sublist
  case forms_once => exact hforms.keys
  case mem_names_iff => exact hplaced.compact.mem_names_iff
  case dependencies_once => exact hwired.nodup
  case mem_pairs_iff =>
    intro field source
    rw [hwired.mem_pairs_iff]
    refine exists_congr fun state => and_congr_right fun hfind => ?_
    exact hsound.comparesWith_iff hfind source
  case values_registered =>
    intro field value hvalue
    refine hsound.isRegistered_of_not_absent fun habsent => ?_
    cases habsent.value.symm.trans hvalue
  case waiting_registered =>
    intro field hwaiting
    refine hsound.isRegistered_of_not_absent fun habsent => ?_
    cases habsent.waiting.symm.trans hwaiting
  case generations_registered =>
    intro field generation hcurrent
    refine hsound.isRegistered_of_not_absent fun habsent => ?_
    cases habsent.current.symm.trans hcurrent
  case entries_registered =>
    intro entry hmem
    obtain ⟨state, hfind, -⟩ := (SummaryAgrees.of_sound hsound).tells entry hmem
    rw [isRegistered_iff, hfind]
    exact Option.some_ne_none state

/-- Every reachable context has a log of its registrations, and its tables agree with
its fields, whatever the log. -/
theorem integral_of_reachable (hreach : c.Reachable) :
    (∃ log, Logged log c) ∧ ∀ log, Logged log c → c.Integral log := by
  refine ⟨hreach.exists_logged, fun log hlogged => ?_⟩
  exact hlogged.integral

/-- A word is registered anew behind its copy, and the copy gets other rules. -/
def rearranged : Context :=
  (start Message.english.translator {} []).run
    [.register { name := "word", rules := "required", form := some "form", value := some "owl" },
      .register { name := "copy", rules := "match:word", form := some "form" },
      .register { name := "word", rules := "alpha", form := some "form" },
      .setRules "copy" "required|different:name|different:name"]

theorem integral_rearranged :
    rearranged.forms.fields "form" = ["copy", "word"] ∧
      rearranged.dependencies.pairs = [("copy", "name")] ∧
      (∃ log, Logged log rearranged) ∧ ∀ log, Logged log rearranged → rearranged.Integral log := by
  have hreach : rearranged.Reachable := (Reachable.start _ _ _).run _
  exact ⟨by decide +kernel, by decide +kernel, integral_of_reachable hreach⟩

end Context

end FieldRules
