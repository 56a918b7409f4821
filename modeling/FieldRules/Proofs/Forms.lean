import Mathlib.Data.List.Nodup
import FieldRules.Forms

/-!
# The two directions of the forms agree

The forms are stored twice: the fields of each form, and the form of each
field.  `Forms.Sound` says that both tell the same, and that no field stands
twice in a form.

* `formOf?_insert_self`, `formOf?_remove_self` and their like: the form of a
  field after a field has entered or left a form.
* `Sound.insert` and `Sound.remove`: both directions still agree.
* `Compact`: no form is listed without fields.
-/

namespace FieldRules

namespace Forms

variable {groups : Assoc (List String)} {form other field : String}

/-! ## The fields of a form -/

theorem find?_enter_self (groups : Assoc (List String)) (form field : String) :
    (enter form field groups).find? form = some ((groups.find? form).getD [] ++ [field]) := by
  induction groups with
  | nil => simp [enter, Assoc.find?_cons]
  | cons head rest ih =>
    obtain ⟨name, fields⟩ := head
    by_cases hname : name = form
    · simp [enter, Assoc.find?_cons, hname]
    · simp [enter, Assoc.find?_cons, hname, ih]

theorem find?_enter_of_ne (groups : Assoc (List String)) (field : String) (hne : form ≠ other) :
    (enter form field groups).find? other = groups.find? other := by
  induction groups with
  | nil => simp [enter, Assoc.find?_cons, hne]
  | cons head rest ih =>
    obtain ⟨name, fields⟩ := head
    by_cases hname : name = form
    · subst hname
      simp [enter, Assoc.find?_cons, hne]
    · simp [enter, Assoc.find?_cons, hname, ih]

/-- A name that no group has gives no fields. -/
theorem find?_eq_none_of_notMem (hmem : form ∉ groups.map (·.1)) : groups.find? form = none := by
  induction groups with
  | nil => rfl
  | cons head rest ih =>
    obtain ⟨name, fields⟩ := head
    rw [List.map_cons, List.mem_cons, not_or] at hmem
    rw [Assoc.find?_cons, if_neg (Ne.symm hmem.1), ih hmem.2]

/-- The last field of a form takes the form along, so its name must not stand in
a second group. -/
theorem find?_leave_self (hkeys : (groups.map (·.1)).Nodup) (form field : String) :
    ((leave form field groups).find? form).getD [] =
      ((groups.find? form).getD []).filter (· ≠ field) := by
  induction groups with
  | nil => rfl
  | cons head rest ih =>
    obtain ⟨name, fields⟩ := head
    rw [List.map_cons, List.nodup_cons] at hkeys
    by_cases hname : name = form
    · subst hname
      rw [leave, if_pos rfl, Assoc.find?_cons, if_pos rfl, Option.getD_some]
      cases hothers : fields.filter (· ≠ field) with
      | nil => simp [find?_eq_none_of_notMem hkeys.1]
      | cons first others => simp [Assoc.find?_cons]
    · rw [leave, if_neg hname, Assoc.find?_cons, if_neg hname, ih hkeys.2, Assoc.find?_cons,
        if_neg hname]

theorem find?_leave_of_ne (groups : Assoc (List String)) (field : String) (hne : form ≠ other) :
    (leave form field groups).find? other = groups.find? other := by
  induction groups with
  | nil => rfl
  | cons head rest ih =>
    obtain ⟨name, fields⟩ := head
    by_cases hname : name = form
    · subst hname
      rw [leave, if_pos rfl, Assoc.find?_cons, if_neg hne]
      cases fields.filter (· ≠ field) with
      | nil => rfl
      | cons first others => rw [Assoc.find?_cons, if_neg hne]
    · rw [leave, if_neg hname, Assoc.find?_cons, Assoc.find?_cons, ih]

theorem map_fst_leave_sublist (form field : String) (groups : Assoc (List String)) :
    ((leave form field groups).map (·.1)).Sublist (groups.map (·.1)) := by
  induction groups with
  | nil => exact List.Sublist.refl _
  | cons head rest ih =>
    obtain ⟨name, fields⟩ := head
    by_cases hname : name = form
    · rw [leave, if_pos hname]
      cases fields.filter (· ≠ field) with
      | nil => exact List.sublist_cons_self _ _
      | cons first others => exact List.Sublist.refl _
    · rw [leave, if_neg hname]
      exact ih.cons_cons name

theorem mem_map_fst_enter {name : String} :
    name ∈ (enter form field groups).map (·.1) ↔ name = form ∨ name ∈ groups.map (·.1) := by
  induction groups with
  | nil => simp [enter]
  | cons head rest ih =>
    obtain ⟨first, fields⟩ := head
    by_cases hfirst : first = form
    · subst hfirst
      simp [enter]
    · simp only [enter, hfirst, if_false, List.map_cons, List.mem_cons, ih]
      exact or_left_comm

theorem nodup_map_fst_enter (hkeys : (groups.map (·.1)).Nodup) (form field : String) :
    ((enter form field groups).map (·.1)).Nodup := by
  induction groups with
  | nil => simp [enter]
  | cons head rest ih =>
    obtain ⟨name, fields⟩ := head
    rw [List.map_cons, List.nodup_cons] at hkeys
    by_cases hname : name = form
    · rw [enter, if_pos hname, List.map_cons, List.nodup_cons]
      exact hkeys
    · rw [enter, if_neg hname, List.map_cons, List.nodup_cons, mem_map_fst_enter, not_or]
      exact ⟨⟨hname, hkeys.1⟩, ih hkeys.2⟩

/-! ## The form of a field -/

theorem formOf?_remove_self (forms : Forms) (field : String) :
    (forms.remove field).formOf? field = none := by
  unfold remove
  cases hform : forms.formOf? field with
  | none => exact hform
  | some form => exact Assoc.find?_drop_self _ _

theorem formOf?_remove_of_ne (forms : Forms) (hne : field ≠ other) :
    (forms.remove field).formOf? other = forms.formOf? other := by
  unfold remove
  cases forms.formOf? field with
  | none => rfl
  | some form => exact Assoc.find?_drop_of_ne _ hne

theorem formOf?_insert_self (forms : Forms) (form field : String) :
    (forms.insert form field).formOf? field = some form := by
  unfold insert
  split
  · assumption
  · exact Assoc.find?_put_self _ _ _

theorem formOf?_insert_of_ne (forms : Forms) (form : String) (hne : field ≠ other) :
    (forms.insert form field).formOf? other = forms.formOf? other := by
  unfold insert
  split
  · rfl
  · exact (Assoc.find?_put_of_ne _ _ hne).trans (formOf?_remove_of_ne forms hne)

/-- A field that was in no form adds nothing but the name of its form. -/
theorem mem_names_insert {forms : Forms} (hform : forms.formOf? field = none) {name : String} :
    name ∈ (forms.insert form field).names ↔ name = form ∨ name ∈ forms.names := by
  unfold insert remove names
  rw [hform, if_neg nofun]
  exact mem_map_fst_enter

/-! ## Both directions -/

/-- The fields of each form are those whose form it is, each of them once. -/
structure Sound (forms : Forms) : Prop where
  keys : (forms.groups.map (·.1)).Nodup
  nodup : ∀ form, (forms.fields form).Nodup
  mem_iff : ∀ form field, field ∈ forms.fields form ↔ forms.formOf? field = some form

theorem Sound.empty : Sound {} where
  keys := List.nodup_nil
  nodup _ := List.nodup_nil
  mem_iff form field := by simp [fields, formOf?]

theorem fields_remove {forms : Forms} (hsound : forms.Sound) (form field : String) :
    (forms.remove field).fields form = (forms.fields form).filter (· ≠ field) := by
  have hmem := hsound.mem_iff form field
  unfold remove
  cases hform : forms.formOf? field with
  | none =>
    rw [eq_comm, List.filter_eq_self]
    intro name hname
    rw [decide_eq_true_iff]
    rintro rfl
    rw [hmem, hform] at hname
    contradiction
  | some home =>
    by_cases hhome : home = form
    · subst hhome
      exact find?_leave_self hsound.keys home field
    · have hnot : field ∉ forms.fields form := by
        rw [hmem, hform]
        simpa using hhome
      simp only [fields, find?_leave_of_ne _ _ hhome]
      rw [eq_comm, List.filter_eq_self]
      intro name hname
      rw [decide_eq_true_iff]
      rintro rfl
      exact hnot hname

theorem Sound.remove {forms : Forms} (hsound : forms.Sound) (field : String) :
    (forms.remove field).Sound where
  keys := by
    unfold Forms.remove
    cases forms.formOf? field with
    | none => exact hsound.keys
    | some form => exact (map_fst_leave_sublist form field _).nodup hsound.keys
  nodup form := by
    rw [fields_remove hsound]
    exact (hsound.nodup form).filter _
  mem_iff form name := by
    rw [fields_remove hsound, List.mem_filter, hsound.mem_iff]
    by_cases hname : field = name
    · subst hname
      simp [formOf?_remove_self]
    · simp [formOf?_remove_of_ne forms hname, Ne.symm hname]

/-- A field that enters a form comes last in it. -/
theorem fields_insert {forms : Forms} (hform : forms.formOf? field ≠ some form) (name : String) :
    (forms.insert form field).fields name =
      if name = form then (forms.remove field).fields name ++ [field]
      else (forms.remove field).fields name := by
  rw [Forms.insert, if_neg hform]
  split
  · rename_i hname
    subst hname
    simp only [fields, find?_enter_self, Option.getD_some]
  · rename_i hname
    simp only [fields, find?_enter_of_ne _ _ (Ne.symm hname)]

theorem Sound.insert {forms : Forms} (hsound : forms.Sound) (form field : String) :
    (forms.insert form field).Sound := by
  by_cases hform : forms.formOf? field = some form
  · rwa [Forms.insert, if_pos hform]
  · have hothers := hsound.remove field
    have hnot : ∀ name, field ∉ (forms.remove field).fields name := by
      intro name
      rw [hothers.mem_iff, formOf?_remove_self]
      simp
    have hfields := fields_insert hform
    refine ⟨?_, ?_, ?_⟩
    · rw [Forms.insert, if_neg hform]
      exact nodup_map_fst_enter hothers.keys form field
    · intro name
      rw [hfields]
      split
      · rw [← List.concat_eq_append]
        exact (hothers.nodup name).concat (hnot name)
      · exact hothers.nodup name
    · intro name other
      rw [hfields]
      by_cases hother : field = other
      · subst hother
        rw [formOf?_insert_self]
        split
        · rename_i hname
          simp [hname]
        · rename_i hname
          simpa [hnot name] using fun h => hname h.symm
      · rw [formOf?_insert_of_ne forms form hother, ← formOf?_remove_of_ne forms hother,
          ← hothers.mem_iff]
        split
        · simp [Ne.symm hother]
        · rfl

/-! ## Forms that are not empty -/

variable {forms : Forms}

/-- No form is listed without fields. -/
def Compact (forms : Forms) : Prop :=
  ∀ row ∈ forms.groups, row.2 ≠ []

theorem forall_mem_enter (hgroups : ∀ row ∈ groups, row.2 ≠ []) :
    ∀ row ∈ enter form field groups, row.2 ≠ [] := by
  induction groups with
  | nil => simp [enter]
  | cons head rest ih =>
    obtain ⟨name, fields⟩ := head
    rw [List.forall_mem_cons] at hgroups
    rw [enter]
    split
    · rw [List.forall_mem_cons]
      exact ⟨by simp, hgroups.2⟩
    · rw [List.forall_mem_cons]
      exact ⟨hgroups.1, ih hgroups.2⟩

theorem forall_mem_leave (hgroups : ∀ row ∈ groups, row.2 ≠ []) :
    ∀ row ∈ leave form field groups, row.2 ≠ [] := by
  induction groups with
  | nil => exact hgroups
  | cons head rest ih =>
    obtain ⟨name, fields⟩ := head
    rw [List.forall_mem_cons] at hgroups
    rw [leave]
    split
    · cases hothers : fields.filter (· ≠ field) with
      | nil => exact hgroups.2
      | cons first others =>
        dsimp only
        rw [List.forall_mem_cons]
        exact ⟨by simp, hgroups.2⟩
    · rw [List.forall_mem_cons]
      exact ⟨hgroups.1, ih hgroups.2⟩

theorem Compact.remove (hcompact : forms.Compact) (field : String) :
    (forms.remove field).Compact := by
  unfold Forms.remove
  cases forms.formOf? field with
  | none => exact hcompact
  | some form => exact forall_mem_leave hcompact

theorem Compact.insert (hcompact : forms.Compact) (form field : String) :
    (forms.insert form field).Compact := by
  unfold Forms.insert
  split
  · exact hcompact
  · exact forall_mem_enter (hcompact.remove field)

/-- The forms are those that have fields. -/
theorem Compact.mem_names_iff (hcompact : forms.Compact) (form : String) :
    form ∈ forms.names ↔ forms.fields form ≠ [] := by
  obtain ⟨groups, homes⟩ := forms
  simp only [Compact, names, fields] at hcompact ⊢
  induction groups with
  | nil => simp
  | cons head rest ih =>
    obtain ⟨name, fields⟩ := head
    rw [List.forall_mem_cons] at hcompact
    rw [List.map_cons, List.mem_cons, Assoc.find?_cons, ih hcompact.2]
    by_cases hname : name = form
    · simp [hname, hcompact.1]
    · simp [hname, Ne.symm hname]

end Forms

end FieldRules
