import FieldRules.Proofs.Happenings
import FieldRules.Proofs.Moves

/-!
# Contexts evolve by moves of their views

`Evolves c c'` says that `c'` comes from `c` by moves of the views of all
fields.  Every operation makes a sound context evolve.  This is shown once for
each of them, so that no later proof has to look at the operations again.

* `Context.Sound`: the registries are in order and all views are intact.
* `evolves_evaluate`: a prepared evaluation.
* `evolves_again`, `evolves_schedule_zero`: an evaluation without delay.
-/

namespace FieldRules

namespace Context

variable {c c' d : Context} {field other : String} {state : FieldState}

theorem engine_retain (c : Context) (result : Except ConfigError Unit) :
    (c.retain result).engine = c.engine := by
  cases result <;> rfl

/-! ## Sound contexts -/

/-- The registries of a context are in order. -/
structure Regular (c : Context) : Prop where
  summary : c.summary.UniqueFields
  forms : c.forms.Sound
  clock : c.clock.Sound

/-- All that a context knows fits together. -/
structure Sound (c : Context) : Prop where
  regular : c.Regular
  intact : ∀ field, (c.view field).Intact field

theorem Sound.present (hsound : c.Sound) (hfind : c.fields.find? field = some state) :
    (c.view field).Present field state :=
  (hsound.intact field).present state hfind

theorem Sound.absent (hsound : c.Sound) (hfind : c.fields.find? field = none) :
    (c.view field).Absent :=
  (hsound.intact field).absent hfind

/-- The fields of a form are registered. -/
theorem Sound.exists_state_of_mem (hsound : c.Sound) {form : String}
    (hmem : field ∈ c.forms.fields form) : ∃ state, c.fields.find? field = some state := by
  refine Option.ne_none_iff_exists'.1 fun hnone => ?_
  have hform : c.forms.formOf? field = none := (hsound.absent hnone).form
  rw [(hsound.regular.forms.mem_iff form field).1 hmem] at hform
  cases hform

/-- A field with a generation is registered. -/
theorem Sound.exists_state_of_current (hsound : c.Sound) {generation : Nat}
    (hcurrent : c.generations.current? field = some generation) :
    ∃ state, c.fields.find? field = some state := by
  refine Option.ne_none_iff_exists'.1 fun hnone => ?_
  have hnot : c.generations.current? field = none := (hsound.absent hnone).current
  rw [hcurrent] at hnot
  cases hnot

/-- The second context comes from the first one by moves of all views. -/
structure Evolves (c c' : Context) : Prop where
  regular : c'.Regular
  engine : c'.engine = c.engine
  moves : ∀ field, Moves c.engine field (c.view field) (c'.view field)

namespace Evolves

theorem refl (hregular : c.Regular) : Evolves c c :=
  ⟨hregular, rfl, fun _ => .refl⟩

theorem trans (hfirst : Evolves c c') (hsecond : Evolves c' d) : Evolves c d where
  regular := hsecond.regular
  engine := hsecond.engine.trans hfirst.engine
  moves field := by
    have hmoves := hsecond.moves field
    rw [hfirst.engine] at hmoves
    exact (hfirst.moves field).trans hmoves

theorem sound (hevolves : Evolves c c') (hsound : c.Sound) : c'.Sound where
  regular := hevolves.regular
  intact field := (hsound.intact field).moves (hevolves.moves field)

theorem of_views (field : String) (hregular : c'.Regular) (hengine : c'.engine = c.engine)
    (hself : Moves c.engine field (c.view field) (c'.view field))
    (hothers : ∀ other, field ≠ other → Moves c.engine other (c.view other) (c'.view other)) :
    Evolves c c' where
  regular := hregular
  engine := hengine
  moves other := by
    by_cases hother : field = other
    · exact hother ▸ hself
    · exact hothers other hother

theorem of_view_eq (hregular : c'.Regular) (hengine : c'.engine = c.engine)
    (hviews : ∀ field, c'.view field = c.view field) : Evolves c c' where
  regular := hregular
  engine := hengine
  moves field := .of_eq (hviews field)

/-- No view tells which errors are kept. -/
theorem retain (hevolves : Evolves c d) (result : Except ConfigError Unit) :
    Evolves c (d.retain result) := by
  have hregular : (d.retain result).Regular := by
    cases result <;> exact ⟨hevolves.regular.summary, hevolves.regular.forms,
      hevolves.regular.clock⟩
  exact hevolves.trans (.of_view_eq hregular (engine_retain d result) (view_retain d result))

/-- A list of changes, each of which lets sound contexts evolve. -/
theorem foldl {α : Type} {change : Context → α → Context}
    (hchange : ∀ c item, c.Sound → Evolves c (change c item)) (items : List α) :
    ∀ {c : Context}, c.Sound → Evolves c (items.foldl change c) := by
  induction items with
  | nil => exact fun hsound => .refl hsound.regular
  | cons item rest ih =>
    intro c hsound
    have hfirst := hchange c item hsound
    exact hfirst.trans (ih (hfirst.sound hsound))

end Evolves

/-! ## Evaluations -/

theorem evaluate_clock_eq (c : Context) (field : String) :
    (c.evaluate field).1.clock = c.clock :=
  congrArg (fun result => result.1.clock) (evaluate_clock c c.clock field)

theorem Regular.cancel (hregular : c.Regular) (field : String) : (c.cancel field).Regular :=
  ⟨hregular.summary, hregular.forms, hregular.clock.cancel field⟩

theorem Regular.invalidate (hregular : c.Regular) (field : String) :
    (c.invalidate field).Regular :=
  ⟨hregular.summary, hregular.forms, hregular.clock⟩

theorem Regular.note (hregular : c.Regular) (mark : Mark) : (c.note mark).Regular :=
  ⟨hregular.summary, hregular.forms, hregular.clock⟩

theorem Regular.put (hregular : c.Regular) (state : FieldState) : (c.put state).Regular :=
  ⟨hregular.summary, hregular.forms, hregular.clock⟩

theorem Regular.dismiss (hregular : c.Regular) (field : String) : (c.dismiss field).Regular :=
  ⟨hregular.summary.remove field, hregular.forms, hregular.clock⟩

theorem Regular.depend (hregular : c.Regular) (field : String) (targets : List Target) :
    (c.depend field targets).Regular :=
  ⟨hregular.summary, hregular.forms, hregular.clock⟩

theorem Regular.stored (hregular : c.Regular) (state : FieldState) : (c.stored state).Regular :=
  ⟨hregular.summary.followed state, hregular.forms, hregular.clock⟩

theorem Regular.launch (hregular : c.Regular) (inquiries : List Inquiry) :
    (c.launch inquiries).Regular :=
  ⟨hregular.summary, hregular.forms, hregular.clock⟩

theorem Regular.evaluate (hregular : c.Regular) (hfind : c.fields.find? field = some state)
    (hname : state.name = field) (hfield : field ≠ "") : (c.evaluate field).1.Regular := by
  rw [evaluate_eq c hfind hname hfield]
  exact ((((hregular.invalidate field).note _).depend field _).stored _).launch _

theorem evaluate_engine (hfind : c.fields.find? field = some state) (hname : state.name = field)
    (hfield : field ≠ "") : (c.evaluate field).1.engine = c.engine := by
  rw [evaluate_eq c hfind hname hfield]
  rfl

/-- A field is changed, and then evaluated. -/
theorem evolves_evaluate (hsound : c.Sound) (hregular : d.Regular) (hengine : d.engine = c.engine)
    (hprepares : Prepares field (c.view field) (d.view field))
    (hothers : ∀ other, field ≠ other → Moves c.engine other (c.view other) (d.view other)) :
    Evolves c (d.evaluate field).1 := by
  obtain ⟨state, hfind⟩ : ∃ state, d.fields.find? field = some state := hprepares.exists_state
  have hpresent := ((hsound.intact field).prepares hprepares).present state hfind
  refine .of_views field (hregular.evaluate hfind hpresent.name hpresent.named)
    ((evaluate_engine hfind hpresent.name hpresent.named).trans hengine) ?_ ?_
  · rw [view_evaluate_self d hfind hpresent.name hpresent.named, evaluation, hpresent.name,
      hengine]
    exact .single (.evaluated hprepares hfind _)
  · intro other hother
    rw [view_evaluate_of_ne d hfind hpresent.name hpresent.named hother]
    exact (hothers other hother).tail (.elsewhere (Nat.le_succ _))

theorem evolves_evaluate_of_unregistered (hsound : c.Sound)
    (hfind : c.fields.find? field = none) : Evolves c (c.evaluate field).1 := by
  have habsent := hsound.absent hfind
  have hregular : (c.evaluate field).1.Regular := by
    rw [evaluate_of_unregistered c hfind]
    exact ⟨hsound.regular.summary, hsound.regular.forms, hsound.regular.clock⟩
  have hengine : (c.evaluate field).1.engine = c.engine := by
    rw [evaluate_of_unregistered c hfind]
    rfl
  refine .of_views field hregular hengine ?_ ?_
  · rw [view_evaluate_of_unregistered c hfind, ← habsent.current]
    exact .single (.elsewhere (Nat.le_succ _))
  · intro other hother
    rw [view_evaluate_of_unregistered_of_ne c hfind hother]
    exact .single (.elsewhere (Nat.le_succ _))

/-- The waiting evaluation of a field is done now. -/
theorem evolves_again (hsound : c.Sound) (field : String) :
    Evolves c ((c.cancel field).evaluate field).1 := by
  cases hfind : c.fields.find? field with
  | none =>
    have hcancel : Evolves c (c.cancel field) := by
      refine .of_views field (hsound.regular.cancel field) rfl ?_ ?_
      · refine .of_eq ?_
        rw [view_cancel_self, ← (hsound.absent hfind).waiting]
      · intro other hother
        exact .of_eq (view_cancel_of_ne c hother)
    exact hcancel.trans (evolves_evaluate_of_unregistered (hcancel.sound hsound) hfind)
  | some state =>
    refine evolves_evaluate hsound (hsound.regular.cancel field) rfl ?_ ?_
    · rw [view_cancel_self]
      exact .again hfind
    · intro other hother
      exact .of_eq (view_cancel_of_ne c hother)

theorem schedule_zero (c : Context) (field : String) :
    c.schedule field 0 = (c.cancel field).evaluateUnseen field := by
  unfold schedule Clock.schedule
  rfl

theorem evolves_schedule_zero (hsound : c.Sound) (field : String) :
    Evolves c (c.schedule field 0) := by
  rw [schedule_zero]
  exact (evolves_again hsound field).retain _

end Context

end FieldRules
