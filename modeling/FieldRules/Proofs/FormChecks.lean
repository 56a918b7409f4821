import FieldRules.Proofs.Editing

/-!
# Checking a form

`Context.checkForm` first evaluates the fields of the form that wait for it, and
then shows which fields are invalid.  So no field is shown that waits.

* `isPending_flush`: after the evaluations none of the fields waits.
* `evolves_checkForm`: a sound context evolves.
-/

namespace FieldRules

namespace Context

variable {c : Context} {field : String}

/-! ## The evaluations that wait -/

/-- What the evaluation of a field that waits keeps is still true after all of
them, and their errors are those of single evaluations. -/
theorem flush_induction {motive : Context → Prop} (failed : ConfigError → Prop)
    (hkeeps : ∀ c field, motive c → motive ((c.cancel field).evaluate field).1)
    (hfails : ∀ c field e, motive c → ((c.cancel field).evaluate field).2 = .error e → failed e)
    (fields : List String) : ∀ {c : Context}, motive c →
      motive (c.flush fields).1 ∧ ∀ e, (c.flush fields).2 = .error e → failed e := by
  induction fields with
  | nil => exact fun hc => ⟨hc, nofun⟩
  | cons field rest ih =>
    intro c hc
    rw [flush]
    split
    · have hevaluated := hkeeps c field hc
      have hfailed := hfails c field
      generalize (c.cancel field).evaluate field = evaluated at hevaluated hfailed
      obtain ⟨d, result⟩ := evaluated
      cases result with
      | error e => exact ⟨hevaluated, fun cause hcause => hfailed cause hc hcause⟩
      | ok => exact ih hevaluated
    · exact ih hc

theorem flush_keeps {motive : Context → Prop}
    (hagain : ∀ c field, motive c → motive ((c.cancel field).evaluate field).1)
    (fields : List String) {c : Context} (hc : motive c) : motive (c.flush fields).1 :=
  (flush_induction (fun _ => True) hagain (fun _ _ _ _ _ => trivial) fields hc).1

theorem evolves_flush (fields : List String) (hsound : c.Sound) : Evolves c (c.flush fields).1 :=
  flush_keeps (motive := Evolves c)
    (fun _ field hevolves => hevolves.trans (evolves_again (hevolves.sound hsound) field)) fields
    (.refl hsound.regular)

theorem isPending_again_self (c : Context) (field : String) :
    ((c.cancel field).evaluate field).1.clock.isPending field = false := by
  rw [evaluate_clock_eq]
  exact Clock.isPending_cancel_self c.clock field

theorem isPending_flush_of_not (fields : List String) (hnot : c.clock.isPending field = false) :
    (c.flush fields).1.clock.isPending field = false := by
  refine flush_keeps (motive := fun d => d.clock.isPending field = false) ?_ fields hnot
  intro d head hnot
  by_cases hhead : head = field
  · exact hhead ▸ isPending_again_self d head
  · rw [evaluate_clock_eq]
    exact (Clock.isPending_cancel_of_ne d.clock hhead).trans hnot

/-- If all evaluations succeed, none of the fields waits any longer. -/
theorem isPending_flush (fields : List String) :
    ∀ {c : Context}, (c.flush fields).2 = .ok () →
      ∀ field ∈ fields, (c.flush fields).1.clock.isPending field = false := by
  induction fields with
  | nil => exact fun _ field hmem => absurd hmem List.not_mem_nil
  | cons head rest ih =>
    intro c hok field hmem
    rw [flush] at hok ⊢
    split at hok
    · rename_i hpending
      rw [if_pos hpending]
      have hhead := isPending_again_self c head
      generalize (c.cancel head).evaluate head = evaluated at hok hhead
      obtain ⟨d, result⟩ := evaluated
      cases result with
      | error e => cases hok
      | ok =>
        rcases List.mem_cons.1 hmem with rfl | hmem
        · exact isPending_flush_of_not rest hhead
        · exact ih hok field hmem
    · rename_i hnot
      rw [if_neg hnot]
      rcases List.mem_cons.1 hmem with rfl | hmem
      · exact isPending_flush_of_not rest (Bool.eq_false_iff.2 hnot)
      · exact ih hok field hmem

/-! ## Showing the invalid fields -/

theorem reveal_clock (c : Context) (field : String) : (c.reveal field).clock = c.clock := by
  unfold reveal
  split
  · rfl
  · split <;> rfl

theorem evolves_reveal (hsound : c.Sound) (hnot : c.clock.isPending field = false) :
    Evolves c (c.reveal field) := by
  unfold reveal
  cases hfind : c.fields.find? field with
  | none => exact .refl hsound.regular
  | some state =>
    have hname : state.revealed.name = field :=
      (FieldState.name_of_setup state.setup_revealed).trans (hsound.present hfind).name
    dsimp only
    split
    · exact .refl hsound.regular
    · rename_i hvalid
      refine .of_views field (hsound.regular.put _) rfl ?_ ?_
      · rw [view_put_self _ hname]
        exact .single (.revealed hfind (Bool.eq_false_iff.2 hvalid) hnot)
      · intro other hother
        exact .of_eq (view_put_of_ne _ (hname ▸ hother))

theorem evolves_foldl_reveal (fields : List String) :
    ∀ {c : Context}, c.Sound → (∀ field ∈ fields, c.clock.isPending field = false) →
      Evolves c (fields.foldl reveal c) := by
  induction fields with
  | nil => exact fun hsound _ => .refl hsound.regular
  | cons head rest ih =>
    intro c hsound hnot
    have hfirst := evolves_reveal hsound (hnot head List.mem_cons_self)
    refine hfirst.trans (ih (hfirst.sound hsound) fun field hmem => ?_)
    rw [reveal_clock]
    exact hnot field (List.mem_cons_of_mem head hmem)

theorem evolves_checkForm (hsound : c.Sound) (form : String) :
    Evolves c (c.checkForm form).1 := by
  unfold checkForm
  dsimp only
  have hflush := evolves_flush (c.forms.fields form) hsound
  have hnot := isPending_flush (c.forms.fields form) (c := c)
  generalize c.flush (c.forms.fields form) = flushed at hflush hnot
  obtain ⟨d, result⟩ := flushed
  cases result with
  | error e => exact hflush
  | ok =>
    exact hflush.trans (evolves_foldl_reveal _ (hflush.sound hsound) (hnot rfl))

end Context

end FieldRules
