import Mathlib.Data.List.Nodup
import FieldRules.Context.Basic

/-!
# What the registries of a context answer

Each registry is described by what it answers about one field, and each of its
operations by what it does to that answer.  The answers about the other fields
stay as they are, so that proofs can look at one field at a time.

* `find?_set_self` and `find?_subset`: the values.
* `current?_begin_self` and its like: the generations.
* `get?_put_self`, `get?_remove_self` and `get?_clearForm`: the summary.
  `UniqueFields` says that no field has two entries, and every operation keeps
  it.
-/

namespace FieldRules

/-! ## Values -/

namespace Values

theorem find?_set_self (values : Values) (field : String) (value : Option String) :
    Assoc.find? (values.set field value) field = value := by
  cases value with
  | none => exact Assoc.find?_drop_self values field
  | some value => exact Assoc.find?_put_self values field value

theorem find?_set_of_ne (values : Values) {field other : String} (value : Option String)
    (hne : field ≠ other) :
    Assoc.find? (values.set field value) other = Assoc.find? values other := by
  cases value with
  | none => exact Assoc.find?_drop_of_ne values hne
  | some value => exact Assoc.find?_put_of_ne values value hne

/-- A snapshot of some fields answers for these fields as the whole does. -/
theorem find?_subset (values : Values) (fields : List String) (field : String) :
    Assoc.find? (values.subset fields) field =
      if field ∈ fields then Assoc.find? values field else none := by
  induction fields with
  | nil => rfl
  | cons head rest ih =>
    rw [subset]
    by_cases hhead : head = field
    · subst hhead
      cases hvalue : Assoc.find? values head with
      | none => simp [ih, hvalue]
      | some value => simp
    · have hmem : field ∈ head :: rest ↔ field ∈ rest := by simp [Ne.symm hhead]
      cases Assoc.find? values head with
      | none => simp only [ih, hmem]
      | some value =>
        rw [Assoc.find?_put_of_ne _ _ hhead, ih]
        simp only [hmem]

end Values

/-! ## Generations -/

namespace Generations

theorem current?_begin_self (generations : Generations) (field : String) :
    (generations.begin field).1.current? field = some (generations.issued + 1) :=
  Assoc.find?_put_self _ _ _

theorem current?_begin_of_ne (generations : Generations) {field other : String}
    (hne : field ≠ other) :
    (generations.begin field).1.current? other = generations.current? other :=
  Assoc.find?_put_of_ne _ _ hne

theorem current?_forget_self (generations : Generations) (field : String) :
    (generations.forget field).current? field = none :=
  Assoc.find?_drop_self _ _

theorem current?_forget_of_ne (generations : Generations) {field other : String}
    (hne : field ≠ other) :
    (generations.forget field).current? other = generations.current? other :=
  Assoc.find?_drop_of_ne _ hne

end Generations

/-! ## The summary -/

namespace Summary

/-- No field has two entries. -/
def UniqueFields (summary : Summary) : Prop :=
  (summary.entries.map (·.field)).Nodup

theorem get?_eq_some_iff {summary : Summary} (hunique : summary.UniqueFields) {field : String}
    {entry : SummaryEntry} :
    summary.get? field = some entry ↔ entry ∈ summary.entries ∧ entry.field = field := by
  constructor
  · intro h
    exact ⟨List.mem_of_find?_eq_some h, by simpa using List.find?_some h⟩
  · rintro ⟨hmem, rfl⟩
    cases hfound : summary.get? entry.field with
    | none => simpa using List.find?_eq_none.1 hfound entry hmem
    | some other =>
      have hfield : other.field = entry.field := by simpa using List.find?_some hfound
      rw [List.inj_on_of_nodup_map hunique (List.mem_of_find?_eq_some hfound) hmem hfield]

theorem get?_put_self (summary : Summary) (entry : SummaryEntry) :
    (summary.put entry).get? entry.field = some entry := by
  obtain ⟨entries⟩ := summary
  simp only [put, get?]
  induction entries with
  | nil => simp [putEntry]
  | cons head rest ih =>
    by_cases hhead : head.field = entry.field
    · simp [putEntry, hhead]
    · simp [putEntry, hhead, ih]

theorem get?_put_of_ne (summary : Summary) {entry : SummaryEntry} {other : String}
    (hne : entry.field ≠ other) : (summary.put entry).get? other = summary.get? other := by
  obtain ⟨entries⟩ := summary
  simp only [put, get?]
  induction entries with
  | nil => simp [putEntry, hne]
  | cons head rest ih =>
    by_cases hhead : head.field = entry.field
    · have hother : head.field ≠ other := by rwa [hhead]
      simp [putEntry, hhead, hne]
    · simp only [putEntry, hhead, if_false, List.find?_cons, ih]

theorem get?_remove_self (summary : Summary) (field : String) :
    (summary.remove field).get? field = none := by
  simp [remove, get?]

theorem get?_remove_of_ne (summary : Summary) {field other : String} (hne : field ≠ other) :
    (summary.remove field).get? other = summary.get? other := by
  simp only [remove, get?, List.find?_filter]
  congr 1
  funext entry
  by_cases hentry : entry.field = other
  · simp [hentry, Ne.symm hne]
  · simp [hentry]

/-- Clearing a form takes the entry of a field away if it names this form. -/
theorem get?_clearForm {summary : Summary} (hunique : summary.UniqueFields) (form field : String) :
    (summary.clearForm form).1.get? field =
      (summary.get? field).filter (·.form ≠ some form) := by
  obtain ⟨entries⟩ := summary
  simp only [clearForm, get?]
  induction entries with
  | nil => rfl
  | cons head rest ih =>
    have hrest := (List.nodup_cons.1 hunique).2
    have hhead := (List.nodup_cons.1 hunique).1
    by_cases hfield : head.field = field
    · have hnone : rest.find? (fun entry => decide (entry.field = field)) = none := by
        rw [List.find?_eq_none]
        intro entry hentry heq
        refine hhead (List.mem_map.2 ⟨entry, hentry, ?_⟩)
        exact (of_decide_eq_true heq).trans hfield.symm
      by_cases hform : head.form = some form
      · rw [List.filter_cons_of_neg (by simp [hform]), ih hrest, hnone,
          List.find?_cons_of_pos (by simp [hfield]), Option.filter_none,
          Option.filter_some_neg (by simp [hform])]
      · rw [List.filter_cons_of_pos (by simp [hform]), List.find?_cons_of_pos (by simp [hfield]),
          List.find?_cons_of_pos (by simp [hfield]), Option.filter_some_pos (by simp [hform])]
    · rw [List.find?_cons_of_neg (by simp [hfield]), ← ih hrest]
      by_cases hform : head.form = some form
      · rw [List.filter_cons_of_neg (by simp [hform])]
      · rw [List.filter_cons_of_pos (by simp [hform]), List.find?_cons_of_neg (by simp [hfield])]

theorem map_field_putEntry (entry : SummaryEntry) (entries : List SummaryEntry) :
    (putEntry entry entries).map (·.field) =
      if entry.field ∈ entries.map (·.field) then entries.map (·.field)
      else entries.map (·.field) ++ [entry.field] := by
  induction entries with
  | nil => simp [putEntry]
  | cons head rest ih =>
    by_cases hhead : head.field = entry.field
    · simp [putEntry, hhead]
    · simp only [putEntry, hhead, if_false, List.map_cons, ih, List.mem_cons, Ne.symm hhead,
        false_or]
      split <;> simp

theorem UniqueFields.put {summary : Summary} (hunique : summary.UniqueFields)
    (entry : SummaryEntry) : (summary.put entry).UniqueFields := by
  simp only [UniqueFields, Summary.put, map_field_putEntry]
  split
  · exact hunique
  · rename_i hmem
    rw [← List.concat_eq_append]
    exact hunique.concat hmem

theorem UniqueFields.remove {summary : Summary} (hunique : summary.UniqueFields)
    (field : String) : (summary.remove field).UniqueFields :=
  List.Nodup.sublist (List.Sublist.map _ List.filter_sublist) hunique

theorem UniqueFields.clearForm {summary : Summary} (hunique : summary.UniqueFields)
    (form : String) : (summary.clearForm form).1.UniqueFields :=
  List.Nodup.sublist (List.Sublist.map _ List.filter_sublist) hunique

end Summary

end FieldRules
