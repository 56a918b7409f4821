import FieldRules.Proofs.Entrances
import FieldRules.Proofs.Forms

/-!
# Forms and their history

Fields enter forms, move between them and leave them.  The actions that have been
taken tell in which form a field is, and at which place.

* `Forms.run`: the forms after some actions.
* `formOf?_perform_iff`: what one more action does to the form of a field.
* `grows_fieldsAfter`: what it does to the fields of a form.
* `Forms.Lawful`, `lawful_forms`: the law of forms.
-/

namespace FieldRules.Forms

open Listing

/-! ## Runs -/

/-- What can be done with forms. -/
inductive Action where
  | insert (form field : String)
  | remove (field : String)
  deriving DecidableEq, Repr

/-- Carries out an action. -/
def perform (forms : Forms) : Action → Forms
  | .insert form field => forms.insert form field
  | .remove field => forms.remove field

/-- The forms after some actions. -/
def run (actions : List Action) : Forms :=
  actions.foldl perform {}

/-- The fields of a form after some actions. -/
def fieldsAfter (form : String) (actions : List Action) : List String :=
  (run actions).fields form

/-- The action removes the field, or takes it to another form. -/
def Action.TakesOut (form field : String) : Action → Prop
  | .insert other moved => moved = field ∧ other ≠ form
  | .remove removed => removed = field

variable {forms : Forms} {actions : List Action} {action : Action} {form field : String}
  {number : Nat}

theorem run_append_singleton (actions : List Action) (action : Action) :
    run (actions ++ [action]) = (run actions).perform action := by
  rw [run, List.foldl_append, List.foldl_cons, List.foldl_nil, ← run]

theorem sound_run (actions : List Action) : (run actions).Sound := by
  induction actions using List.reverseRecOn with
  | nil => exact .empty
  | append_singleton actions action ih =>
    rw [run_append_singleton]
    cases action with
    | insert form field => exact ih.insert form field
    | remove field => exact ih.remove field

theorem compact_run (actions : List Action) : (run actions).Compact := by
  induction actions using List.reverseRecOn with
  | nil =>
    intro row hmem
    cases hmem
  | append_singleton actions action ih =>
    rw [run_append_singleton]
    cases action with
    | insert form field => exact ih.insert form field
    | remove field => exact ih.remove field

/-! ## One more action -/

/-- A field is in a form if the last action has put it there, or if it was there before
and has not been taken out. -/
theorem formOf?_perform_iff : (forms.perform action).formOf? field = some form ↔
    action = .insert form field ∨
      forms.formOf? field = some form ∧ ¬ action.TakesOut form field := by
  cases action with
  | insert home moved =>
    by_cases hmoved : moved = field
    · subst hmoved
      rw [perform, formOf?_insert_self]
      by_cases hhome : home = form <;> simp [hhome, Action.TakesOut]
    · rw [perform, formOf?_insert_of_ne forms home hmoved]
      simp [hmoved, Action.TakesOut]
  | remove removed =>
    by_cases hremoved : removed = field
    · subst hremoved
      rw [perform, formOf?_remove_self]
      simp [Action.TakesOut]
    · rw [perform, formOf?_remove_of_ne forms hremoved]
      simp [hremoved, Action.TakesOut]

theorem formOf?_run_iff : (run actions).formOf? field = some form ↔
    Lasts (· = .insert form field) (·.TakesOut form field) actions := by
  induction actions using List.reverseRecOn with
  | nil => exact iff_of_false nofun (not_lasts_nil _ _)
  | append_singleton actions action ih =>
    rw [run_append_singleton, formOf?_perform_iff, lasts_append_iff, ih]

/-- A field that is inserted where it is stays there. -/
theorem insert_of_formOf? (hform : forms.formOf? field = some form) :
    forms.insert form field = forms := by
  rw [insert, if_pos hform]

/-- A field that enters a form comes last in it, and one that leaves it moves no other. -/
theorem grows_fieldsAfter (form : String) : Grows (fieldsAfter form) := by
  intro actions action
  have hsound := sound_run actions
  simp only [fieldsAfter, run_append_singleton]
  cases action with
  | insert home field =>
    rw [perform]
    by_cases hhome : (run actions).formOf? field = some home
    · rw [insert_of_formOf? hhome]
      exact .inl (List.Sublist.refl _)
    · rw [fields_insert hhome, fields_remove hsound]
      split
      · rename_i hform
        subst hform
        rw [← hsound.mem_iff] at hhome
        have hothers :
            ((run actions).fields form).filter (· ≠ field) = (run actions).fields form := by
          rw [List.filter_eq_self]
          intro other hmem
          simpa using fun h : other = field => hhome (h ▸ hmem)
        rw [hothers]
        exact .inr ⟨field, hhome, rfl⟩
      · exact .inl List.filter_sublist
  | remove field =>
    rw [perform, fields_remove hsound]
    exact .inl List.filter_sublist

/-! ## The law of forms -/

/-- What can be told from the actions that have been taken. -/
structure Lawful (actions : List Action) : Prop where
  /-- A field is in the form that it has been inserted into and not been taken out of since. -/
  formOf?_iff : ∀ form field, (run actions).formOf? field = some form ↔
    Lasts (· = .insert form field) (·.TakesOut form field) actions
  mem_fields_iff : ∀ form field,
    field ∈ (run actions).fields form ↔ (run actions).formOf? field = some form
  fields_once : ∀ form, ((run actions).fields form).Nodup
  names_once : (run actions).names.Nodup
  fields_ne_nil : ∀ form ∈ (run actions).names, (run actions).fields form ≠ []
  contains_iff : ∀ form,
    (run actions).contains form = true ↔ ∃ field, (run actions).formOf? field = some form
  entered : ∀ form, ∀ field ∈ (run actions).fields form,
    ∃! number, EnteredAt (fieldsAfter form) actions field number
  inserted : ∀ form field number, EnteredAt (fieldsAfter form) actions field number →
    actions[number]? = some (.insert form field)
  /-- The fields of a form stand in the order in which they have last entered it. -/
  ordered : ∀ form, ((run actions).fields form).Pairwise (Precedes (fieldsAfter form) actions)
  kept : ∀ form, ∀ field ∈ (run actions).fields form,
    run (actions ++ [.insert form field]) = run actions

theorem contains_iff (hsound : forms.Sound) (hcompact : forms.Compact) :
    forms.contains form = true ↔ ∃ field, forms.formOf? field = some form := by
  rw [contains, Assoc.has, ← Assoc.mem_keys_iff, ← names, hcompact.mem_names_iff, ne_eq,
    List.eq_nil_iff_forall_not_mem, not_forall_not]
  simp only [hsound.mem_iff]

theorem insert_of_enteredAt (hentered : EnteredAt (fieldsAfter form) actions field number) :
    actions[number]? = some (.insert form field) := by
  obtain ⟨action, haction, hbefore, hafter⟩ := hentered.exists_action
  rw [fieldsAfter, (sound_run _).mem_iff] at hbefore hafter
  rw [run_append_singleton] at hafter
  rcases formOf?_perform_iff.1 hafter with rfl | ⟨hold, -⟩
  · exact haction
  · exact absurd hold hbefore

/-- Both directions agree after any actions, and the fields of a form stand in the order
in which they have last entered it. -/
theorem lawful_forms (actions : List Action) : Lawful actions := by
  have hsound := sound_run actions
  have hcompact := compact_run actions
  constructor
  case formOf?_iff => exact fun form field => formOf?_run_iff
  case mem_fields_iff => exact hsound.mem_iff
  case fields_once => exact hsound.nodup
  case names_once => exact hsound.keys
  case fields_ne_nil => exact fun form => (hcompact.mem_names_iff form).1
  case contains_iff => exact fun form => contains_iff hsound hcompact
  case entered => exact fun form field hmem => existsUnique_enteredAt rfl hmem
  case inserted => exact fun form field number => insert_of_enteredAt
  case ordered => exact fun form => pairwise_precedes rfl (grows_fieldsAfter form) actions
  case kept =>
    intro form field hmem
    rw [run_append_singleton]
    exact insert_of_formOf? ((hsound.mem_iff form field).1 hmem)

/-- A field that comes back into a form comes last, and one that is inserted again
keeps its place. -/
example : (run [.insert "a" "x", .insert "a" "y", .insert "b" "x", .insert "a" "x",
    .insert "a" "y"]).groups = [("a", ["y", "x"])] := by
  decide

end FieldRules.Forms
