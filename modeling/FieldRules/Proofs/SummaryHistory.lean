import FieldRules.Proofs.Entrances
import FieldRules.Proofs.Registries

/-!
# The summary and its history

Entries are put into the summary, replaced and taken out, one by one or with all
entries of a form.  The actions that have been taken tell which entries there are,
and in which order.

* `Summary.run`: the summary after some actions.
* `get?_perform_iff`: what one more action does to the entry of a field.
* `grows_fieldsAfter`: what it does to the list of the fields that have entries.
* `Summary.Lawful`, `lawful_summary`: the law of summaries.
-/

namespace FieldRules.Summary

open Listing

/-! ## Runs -/

/-- What can be done with a summary. -/
inductive Action where
  | add (entry : SummaryEntry)
  | remove (field : String)
  | clearForm (form : String)
  deriving DecidableEq, Repr

/-- Carries out an action.  An entry that is refused leaves the summary as it is. -/
def perform (summary : Summary) : Action → Summary
  | .add entry =>
    match summary.add entry with
    | .ok summary => summary
    | .error _ => summary
  | .remove field => summary.remove field
  | .clearForm form => (summary.clearForm form).1

/-- The summary after some actions. -/
def run (actions : List Action) : Summary :=
  actions.foldl perform {}

/-- The fields that have entries. -/
def fields (summary : Summary) : List String :=
  summary.entries.map (·.field)

/-- The fields that have entries after some actions. -/
def fieldsAfter (actions : List Action) : List String :=
  (run actions).fields

/-- The action puts the entry into the summary. -/
def Action.Puts (entry : SummaryEntry) (action : Action) : Prop :=
  action = .add entry ∧ entry.field ≠ ""

/-- The action takes the entry out of the summary, or puts another one in its place. -/
def Action.Displaces (entry : SummaryEntry) : Action → Prop
  | .add other => other.field ≠ "" ∧ other.field = entry.field
  | .remove field => field = entry.field
  | .clearForm form => entry.form = some form

variable {summary : Summary} {actions : List Action} {action : Action} {entry : SummaryEntry}
  {field form : String} {number : Nat}

theorem run_append_singleton (actions : List Action) (action : Action) :
    run (actions ++ [action]) = (run actions).perform action := by
  rw [run, List.foldl_append, List.foldl_cons, List.foldl_nil, ← run]

theorem add_of_nameless (summary : Summary) (hfield : entry.field = "") :
    summary.add entry = .error .missingFieldName := by
  rw [add, hfield]
  rfl

theorem add_of_named (summary : Summary) (hfield : entry.field ≠ "") :
    summary.add entry = .ok (summary.put entry) := by
  rw [add, if_neg (by simpa using hfield)]

theorem perform_add (summary : Summary) (entry : SummaryEntry) :
    summary.perform (.add entry) = if entry.field = "" then summary else summary.put entry := by
  rw [perform]
  split_ifs with hfield
  · rw [add_of_nameless summary hfield]
  · rw [add_of_named summary hfield]

theorem UniqueFields.perform (hunique : summary.UniqueFields) (action : Action) :
    (summary.perform action).UniqueFields := by
  cases action with
  | add entry =>
    rw [perform_add]
    split
    · exact hunique
    · exact hunique.put entry
  | remove field => exact hunique.remove field
  | clearForm form => exact hunique.clearForm form

theorem uniqueFields_run (actions : List Action) : (run actions).UniqueFields := by
  induction actions using List.reverseRecOn with
  | nil => exact List.nodup_nil
  | append_singleton actions action ih =>
    rw [run_append_singleton]
    exact ih.perform action

/-! ## One more action -/

/-- A field has the entry that the last action has put there, or that it had before and
that has not been displaced. -/
theorem get?_perform_iff (hunique : summary.UniqueFields) :
    (summary.perform action).get? entry.field = some entry ↔
      action.Puts entry ∨ summary.get? entry.field = some entry ∧ ¬ action.Displaces entry := by
  cases action with
  | add other =>
    rw [perform_add]
    by_cases hother : other.field = entry.field
    · rw [Action.Puts, Action.Displaces, hother]
      split_ifs with hfield
      · simp [hfield]
      · rw [← hother, get?_put_self]
        simp [hfield, hother]
    · have hne : other ≠ entry := fun h => hother (congrArg _ h)
      have hget : (if other.field = "" then summary else summary.put other).get? entry.field =
          summary.get? entry.field := by
        split_ifs
        · rfl
        · exact get?_put_of_ne summary hother
      rw [hget]
      simp [Action.Puts, Action.Displaces, hother, hne]
  | remove field =>
    by_cases hfield : field = entry.field
    · rw [perform, hfield, get?_remove_self]
      simp [Action.Puts, Action.Displaces]
    · rw [perform, get?_remove_of_ne summary hfield]
      simp [Action.Puts, Action.Displaces, hfield]
  | clearForm form =>
    rw [perform, get?_clearForm hunique, Option.filter_eq_some_iff]
    simp [Action.Puts, Action.Displaces]

theorem get?_run_iff : (run actions).get? entry.field = some entry ↔
    Lasts (Action.Puts entry) (Action.Displaces entry) actions := by
  induction actions using List.reverseRecOn with
  | nil => exact iff_of_false nofun (not_lasts_nil _ _)
  | append_singleton actions action ih =>
    rw [run_append_singleton, get?_perform_iff (uniqueFields_run actions), lasts_append_iff, ih]

theorem mem_entries_run_iff : entry ∈ (run actions).entries ↔
    Lasts (Action.Puts entry) (Action.Displaces entry) actions := by
  rw [← get?_run_iff, get?_eq_some_iff (uniqueFields_run actions), and_iff_left rfl]

theorem mem_fields_iff : field ∈ summary.fields ↔ (summary.get? field).isSome = true := by
  rw [fields, List.mem_map, get?, List.find?_isSome]
  simp

/-- A field that is new comes last, and one that goes moves no other. -/
theorem grows_fieldsAfter : Grows fieldsAfter := by
  intro actions action
  simp only [fieldsAfter, run_append_singleton]
  cases action with
  | add entry =>
    rw [perform_add]
    split_ifs
    · exact .inl (List.Sublist.refl _)
    · rw [fields, put, map_field_putEntry]
      split_ifs with hmem
      · exact .inl (List.Sublist.refl _)
      · exact .inr ⟨entry.field, hmem, rfl⟩
  | remove field => exact .inl (List.filter_sublist.map _)
  | clearForm form => exact .inl (List.filter_sublist.map _)

/-- Only an entry that is added brings its field into the summary. -/
theorem exists_add_of_mem_fields (hnot : field ∉ summary.fields)
    (hmem : field ∈ (summary.perform action).fields) :
    ∃ entry, action = .add entry ∧ entry.field = field := by
  cases action with
  | add entry =>
    refine ⟨entry, rfl, ?_⟩
    rw [perform_add] at hmem
    split_ifs at hmem with hfield
    · exact absurd hmem hnot
    · rw [fields, put, map_field_putEntry] at hmem
      split_ifs at hmem
      · exact absurd hmem hnot
      · rcases List.mem_append.1 hmem with hold | hnew
        · exact absurd hold hnot
        · exact (List.mem_singleton.1 hnew).symm
  | remove other => exact absurd ((List.filter_sublist.map _).subset hmem) hnot
  | clearForm form => exact absurd ((List.filter_sublist.map _).subset hmem) hnot

/-- A field loses its entry when it is removed, or when the form is cleared that its
entry names. -/
theorem notMem_fields_perform_iff (hunique : summary.UniqueFields) (hmem : entry ∈ summary.entries)
    (action : Action) : entry.field ∉ (summary.perform action).fields ↔
      action = .remove entry.field ∨ ∃ form, entry.form = some form ∧ action = .clearForm form := by
  have hget := (get?_eq_some_iff hunique).2 ⟨hmem, rfl⟩
  rw [mem_fields_iff]
  cases action with
  | add other =>
    rw [perform_add]
    by_cases hother : other.field = entry.field
    · split_ifs
      · simp [hget]
      · simp [← hother, get?_put_self]
    · split_ifs
      · simp [hget]
      · simp [get?_put_of_ne summary hother, hget]
  | remove field =>
    rw [perform]
    by_cases hfield : field = entry.field
    · simp [hfield, get?_remove_self]
    · simp [get?_remove_of_ne summary hfield, hget, hfield]
  | clearForm form =>
    rw [perform, get?_clearForm hunique, hget]
    by_cases hform : entry.form = some form <;> simp [hform, Option.filter]

/-! ## The law of summaries -/

/-- What can be told from the actions that have been taken. -/
structure Lawful (actions : List Action) : Prop where
  once : (run actions).fields.Nodup
  /-- An entry is there if it has been added and not been displaced since. -/
  mem_entries_iff : ∀ entry, entry ∈ (run actions).entries ↔
    Lasts (Action.Puts entry) (Action.Displaces entry) actions
  /-- These actions take the entry of a field away, and put no other one there. -/
  removed_iff : ∀ entry ∈ (run actions).entries, ∀ action,
    entry.field ∉ (run (actions ++ [action])).fields ↔
      action = .remove entry.field ∨ ∃ form, entry.form = some form ∧ action = .clearForm form
  entered : ∀ field ∈ (run actions).fields, ∃! number, EnteredAt fieldsAfter actions field number
  added : ∀ field number, EnteredAt fieldsAfter actions field number →
    ∃ entry, actions[number]? = some (.add entry) ∧ entry.field = field
  /-- The entries stand in the order in which their fields have last come in. -/
  ordered : (run actions).entries.Pairwise fun first second =>
    Precedes fieldsAfter actions first.field second.field
  byForm_sublist : ∀ form, ((run actions).byForm form).Sublist (run actions).entries
  mem_byForm_iff : ∀ form entry, entry ∈ (run actions).byForm form ↔
    entry ∈ (run actions).entries ∧ entry.form = some form
  clearForm_sublist : ∀ form,
    ((run actions).clearForm form).1.entries.Sublist (run actions).entries
  mem_clearForm_iff : ∀ form entry, entry ∈ ((run actions).clearForm form).1.entries ↔
    entry ∈ (run actions).entries ∧ entry ∉ (run actions).byForm form
  clearForm_count : ∀ form,
    ((run actions).clearForm form).2 = ((run actions).byForm form).length
  refused : ∀ entry, entry.field = "" → (run actions).add entry = .error .missingFieldName ∧
    run (actions ++ [.add entry]) = run actions

theorem snd_clearForm (summary : Summary) (form : String) :
    (summary.clearForm form).2 = (summary.byForm form).length := by
  have hlength := List.length_eq_length_filter_add (l := summary.entries) (·.form = some form)
  simp only [clearForm, byForm, ne_eq, decide_not]
  omega

theorem exists_add_of_enteredAt (hentered : EnteredAt fieldsAfter actions field number) :
    ∃ entry, actions[number]? = some (.add entry) ∧ entry.field = field := by
  obtain ⟨action, haction, hbefore, hafter⟩ := hentered.exists_action
  rw [fieldsAfter] at hbefore hafter
  rw [run_append_singleton] at hafter
  obtain ⟨entry, rfl, hfield⟩ := exists_add_of_mem_fields hbefore hafter
  exact ⟨entry, haction, hfield⟩

/-- After any actions, each field has the entry that was added for it last, unless it has
been taken out since, and the entries stand in the order in which their fields came in. -/
theorem lawful_summary (actions : List Action) : Lawful actions := by
  have hunique := uniqueFields_run actions
  constructor
  case once => exact hunique
  case mem_entries_iff => exact fun entry => mem_entries_run_iff
  case removed_iff =>
    intro entry hmem action
    rw [run_append_singleton]
    exact notMem_fields_perform_iff hunique hmem action
  case entered => exact fun field hmem => existsUnique_enteredAt rfl hmem
  case added => exact fun field number => exists_add_of_enteredAt
  case ordered =>
    have hordered := pairwise_precedes rfl grows_fieldsAfter actions
    rwa [fieldsAfter, fields, List.pairwise_map] at hordered
  case byForm_sublist => exact fun form => List.filter_sublist
  case mem_byForm_iff => exact fun form entry => by simp [byForm]
  case clearForm_sublist => exact fun form => List.filter_sublist
  case mem_clearForm_iff =>
    intro form entry
    simp only [clearForm, byForm, List.mem_filter, decide_eq_true_eq, not_and]
    exact and_congr_right fun hmem => ⟨fun hform _ => hform, fun hform => hform hmem⟩
  case clearForm_count => exact snd_clearForm (run actions)
  case refused =>
    intro entry hfield
    refine ⟨add_of_nameless _ hfield, ?_⟩
    rw [run_append_singleton, perform_add, if_pos hfield]

/-- The entry of a field is replaced in its place, also by one that names another form. -/
example : (run [.add ⟨"a", some "one", "a", "x"⟩, .add ⟨"b", none, "b", "x"⟩,
    .add ⟨"a", some "two", "a", "y"⟩, .clearForm "one"]).entries =
      [⟨"a", some "two", "a", "y"⟩, ⟨"b", none, "b", "x"⟩] := by
  decide

end FieldRules.Summary
