import FieldRules.Proofs.FormChecks

/-!
# Resetting a form

`Context.resetForm` works through the fields of the form three times: it
outdates what they have under way, makes them look new, and evaluates them.
Between the first and the last time their views are not seen by anybody, so all
of it is one move of each of them: an evaluation prepared by `Prepares.renewed`,
or `Move.abandoned` if the evaluation of another field has failed before.

* `view_foldl_outdate`, `view_foldl_renew`: what the first two times do.
* `allEvaluated`: the third one.
* `evolves_resetForm`: a sound context evolves.
-/

namespace FieldRules

/-! ## Views that differ in what was issued -/

namespace View

variable {field : String} {u v w : View}

/-- Other fields have been evaluated in between. -/
def Later (v w : View) : Prop :=
  ∃ issued, v.issued ≤ issued ∧ w = { v with issued }

/-- What the field had under way is outdated. -/
def Outdated (v w : View) : Prop :=
  ∃ current issued, v.issued < current ∧ current ≤ issued ∧
    w = { v with waiting := false, current := some current, issued }

theorem Later.refl (v : View) : v.Later v :=
  ⟨v.issued, le_refl _, rfl⟩

theorem Later.trans (hfirst : u.Later v) (hsecond : v.Later w) : u.Later w := by
  obtain ⟨middle, hmiddle, rfl⟩ := hfirst
  obtain ⟨issued, hissued, rfl⟩ := hsecond
  exact ⟨issued, hmiddle.trans hissued, rfl⟩

theorem Later.outdated (hfirst : u.Later v) (hsecond : v.Outdated w) : u.Outdated w := by
  obtain ⟨middle, hmiddle, rfl⟩ := hfirst
  obtain ⟨current, issued, hcurrent, hissued, rfl⟩ := hsecond
  exact ⟨current, issued, lt_of_le_of_lt hmiddle hcurrent, hissued, rfl⟩

theorem Outdated.later (hfirst : u.Outdated v) (hsecond : v.Later w) : u.Outdated w := by
  obtain ⟨current, middle, hcurrent, hmiddle, rfl⟩ := hfirst
  obtain ⟨issued, hissued, rfl⟩ := hsecond
  exact ⟨current, issued, hcurrent, hmiddle.trans hissued, rfl⟩

theorem Outdated.trans (hfirst : u.Outdated v) (hsecond : v.Outdated w) : u.Outdated w := by
  obtain ⟨before, middle, hbefore, hmiddle, rfl⟩ := hfirst
  obtain ⟨current, issued, hcurrent, hissued, rfl⟩ := hsecond
  exact ⟨current, issued, hbefore.trans_le (hmiddle.trans hcurrent.le), hissued, rfl⟩

theorem Later.moves (hlater : v.Later w) (engine : Engine) : Moves engine field v w := by
  obtain ⟨issued, hissued, rfl⟩ := hlater
  exact .single (.elsewhere hissued)

theorem Renewed.later (hrenewed : u.Renewed field v) (hlater : v.Later w) :
    u.Renewed field w := by
  obtain ⟨hstate, touched, emptied, hcurrent, hmiddle⟩ := hrenewed
  obtain ⟨issued, hissued, rfl⟩ := hlater
  exact .intro hstate touched emptied hcurrent (hmiddle.trans hissued)

end View

namespace Context

variable {c : Context} {field other form : String} {state : FieldState}

/-! ## Outdating -/

theorem view_outdate_self (c : Context) (field : String) :
    (c.view field).Outdated ((c.outdate field).view field) := by
  rw [outdate, view_invalidate_self, view_cancel_self]
  exact ⟨_, _, Nat.lt_succ_self _, le_refl _, rfl⟩

theorem view_outdate_of_ne (hne : field ≠ other) :
    (c.view other).Later ((c.outdate field).view other) := by
  rw [outdate, view_invalidate_of_ne _ hne, view_cancel_of_ne _ hne]
  exact ⟨_, Nat.le_succ _, rfl⟩

theorem view_foldl_outdate (fields : List String) :
    ∀ c : Context,
      (field ∉ fields → (c.view field).Later ((fields.foldl outdate c).view field)) ∧
      (field ∈ fields → (c.view field).Outdated ((fields.foldl outdate c).view field)) := by
  induction fields with
  | nil => exact fun c => ⟨fun _ => .refl _, fun hmem => absurd hmem List.not_mem_nil⟩
  | cons head rest ih =>
    intro c
    obtain ⟨hlater, houtdated⟩ := ih (c.outdate head)
    by_cases hhead : head = field
    · subst hhead
      refine ⟨fun hnot => absurd List.mem_cons_self hnot, fun _ => ?_⟩
      by_cases hmem : head ∈ rest
      · exact (view_outdate_self c head).trans (houtdated hmem)
      · exact (view_outdate_self c head).later (hlater hmem)
    · rw [List.mem_cons, or_iff_right (Ne.symm hhead)]
      exact ⟨fun hnot => (view_outdate_of_ne hhead).trans (hlater hnot),
        fun hmem => (view_outdate_of_ne hhead).outdated (houtdated hmem)⟩

/-! ## Clearing the errors -/

theorem view_clearErrors (hregular : c.Regular) (form field : String) :
    (c.clearErrors form).view field =
      { c.view field with
        entry := (c.view field).entry.filter (·.form ≠ some form) } := by
  simp only [view, clearErrors, underWay, marks, Summary.get?_clearForm hregular.summary]

/-- The entry of a field names the form of the field. -/
theorem Sound.entry_form (hsound : c.Sound) {entry : SummaryEntry}
    (hentry : c.summary.get? field = some entry) : c.forms.formOf? field = entry.form := by
  cases hfind : c.fields.find? field with
  | none =>
    have hnone : c.summary.get? field = none := (hsound.absent hfind).entry
    rw [hnone] at hentry
    cases hentry
  | some state =>
    have hpresent := hsound.present hfind
    have hstate : state.problem? = some entry := hpresent.entry.symm.trans hentry
    have hform : state.form = c.forms.formOf? field := hpresent.form
    unfold FieldState.problem? at hstate
    split at hstate
    · cases hstate
    · cases hstate
      exact hform.symm

/-- A field that is not in a form keeps its entry. -/
theorem Sound.filter_entry (hsound : c.Sound) (hform : c.forms.formOf? field ≠ some form) :
    (c.view field).entry.filter (·.form ≠ some form) = (c.view field).entry := by
  cases hentry : (c.view field).entry with
  | none => rfl
  | some entry =>
    rw [hsound.entry_form hentry] at hform
    exact Option.filter_some_pos (decide_eq_true hform)

/-- A field that is in a form has no entry afterwards. -/
theorem Sound.filter_entry_self (hsound : c.Sound) (hform : c.forms.formOf? field = some form) :
    (c.view field).entry.filter (·.form ≠ some form) = none := by
  cases hentry : (c.view field).entry with
  | none => rfl
  | some entry =>
    rw [hsound.entry_form hentry] at hform
    exact Option.filter_some_neg (by simpa using hform)

/-! ## Making fields look new -/

/-- Every field is stored under its name. -/
def Named (c : Context) : Prop :=
  ∀ field state, c.fields.find? field = some state → state.name = field

theorem view_renew_self (hfind : c.fields.find? field = some state) (hname : state.name = field)
    (emptied : Bool) :
    (renew emptied c field).view field =
      { c.view field with
        state := some (state.renewed c.config.preValidate)
        value := if emptied then none else (c.view field).value
        marks := (c.view field).marks ++ [.reset field] } := by
  cases emptied with
  | true =>
    simp only [renew, if_true, hfind]
    rw [view_put_self _ (by exact hname), view_note_self _ (by rfl)]
    simp only [view, underWay, marks, Values.find?_set_self]
  | false =>
    simp only [renew, Bool.false_eq_true, if_false, hfind]
    rw [view_put_self _ (by exact hname), view_note_self _ (by rfl)]

theorem view_renew_of_ne (hnamed : c.Named) (emptied : Bool) (hne : field ≠ other) :
    (renew emptied c field).view other = c.view other := by
  have hvalues : ∀ value, ({ c with values := c.values.set field value } : Context).view other =
      c.view other := by
    intro value
    simp only [view, underWay, marks, Values.find?_set_of_ne _ _ hne]
  cases hfind : c.fields.find? field with
  | none =>
    cases emptied with
    | true =>
      simp only [renew, if_true, hfind]
      exact hvalues none
    | false => simp only [renew, Bool.false_eq_true, if_false, hfind]
  | some state =>
    have hrenewed : (state.renewed c.config.preValidate).name ≠ other :=
      (hnamed field state hfind) ▸ hne
    cases emptied with
    | true =>
      simp only [renew, if_true, hfind]
      rw [view_put_of_ne _ hrenewed, view_note_of_ne _ (.reset field) hne, hvalues]
    | false =>
      simp only [renew, Bool.false_eq_true, if_false, hfind]
      rw [view_put_of_ne _ hrenewed, view_note_of_ne _ (.reset field) hne]

theorem Named.renew (hnamed : c.Named) (emptied : Bool) (field : String) :
    (renew emptied c field).Named := by
  intro other state hfind
  by_cases hother : field = other
  · subst hother
    cases hold : c.fields.find? field with
    | none =>
      have hnone : (Context.renew emptied c field).fields.find? field = none := by
        cases emptied <;> simp only [Context.renew, hold, if_true, Bool.false_eq_true, if_false]
      rw [hnone] at hfind
      cases hfind
    | some old =>
      have hview := congrArg View.state (view_renew_self hold (hnamed field old hold) emptied)
      rw [show ((Context.renew emptied c field).view field).state = some state from hfind] at hview
      cases hview
      exact hnamed field old hold
  · have hview := congrArg View.state (view_renew_of_ne hnamed emptied hother)
    exact hnamed other state (hview.symm.trans hfind)

theorem view_foldl_renew_of_notMem (emptied : Bool) (fields : List String) :
    ∀ c : Context, c.Named → field ∉ fields →
      (fields.foldl (renew emptied) c).view field = c.view field := by
  induction fields with
  | nil => exact fun _ _ _ => rfl
  | cons head rest ih =>
    intro c hnamed hnot
    rw [List.mem_cons, not_or] at hnot
    rw [List.foldl_cons, ih _ (hnamed.renew emptied head) hnot.2,
      view_renew_of_ne hnamed emptied (Ne.symm hnot.1)]

theorem view_foldl_renew (emptied : Bool) (fields : List String) :
    ∀ c : Context, c.Named → fields.Nodup → field ∈ fields →
      c.fields.find? field = some state →
      ∃ touched, (fields.foldl (renew emptied) c).view field =
        { c.view field with
          state := some (state.renewed touched)
          value := if emptied then none else (c.view field).value
          marks := (c.view field).marks ++ [.reset field] } := by
  induction fields with
  | nil => exact fun _ _ _ hmem => absurd hmem List.not_mem_nil
  | cons head rest ih =>
    intro c hnamed hnodup hmem hfind
    rw [List.nodup_cons] at hnodup
    rw [List.foldl_cons]
    by_cases hhead : head = field
    · subst hhead
      rw [view_foldl_renew_of_notMem emptied rest _ (hnamed.renew emptied head) hnodup.1,
        view_renew_self hfind (hnamed head state hfind)]
      exact ⟨_, rfl⟩
    · have hview := view_renew_of_ne hnamed emptied hhead
      have hrest := ih _ (hnamed.renew emptied head) hnodup.2
        ((List.mem_cons.1 hmem).resolve_left (Ne.symm hhead))
        ((congrArg View.state hview).trans hfind)
      rwa [hview] at hrest

/-! ## Evaluating the fields of a form -/

/-- What each evaluation keeps is still true after all of them, and their errors
are those of single evaluations. -/
theorem evaluateAll_induction {motive : Context → Prop} (failed : ConfigError → Prop)
    (hkeeps : ∀ c field, motive c → motive (c.evaluate field).1)
    (hfails : ∀ c field e, motive c → (c.evaluate field).2 = .error e → failed e)
    (fields : List String) : ∀ {c : Context}, motive c →
      motive (c.evaluateAll fields).1 ∧ ∀ e, (c.evaluateAll fields).2 = .error e → failed e := by
  induction fields with
  | nil => exact fun hc => ⟨hc, nofun⟩
  | cons field rest ih =>
    intro c hc
    have hfirst := hkeeps c field hc
    have hfailed := hfails c field
    rw [evaluateAll]
    generalize c.evaluate field = evaluated at hfirst hfailed
    obtain ⟨d, result⟩ := evaluated
    cases result with
    | error e => exact ⟨hfirst, fun cause hcause => hfailed cause hc hcause⟩
    | ok => exact ih hfirst

theorem evaluateAll_keeps {motive : Context → Prop}
    (hkeeps : ∀ c field, motive c → motive (c.evaluate field).1) (fields : List String)
    {c : Context} (hc : motive c) : motive (c.evaluateAll fields).1 :=
  (evaluateAll_induction (fun _ => True) hkeeps (fun _ _ _ _ _ => trivial) fields hc).1

/-- A sound context stays sound when one of its fields is evaluated. -/
theorem Sound.evaluate (hsound : c.Sound) (field : String) : (c.evaluate field).1.Sound := by
  cases hfind : c.fields.find? field with
  | none => exact (evolves_evaluate_of_unregistered hsound hfind).sound hsound
  | some state =>
    have hpresent := hsound.present hfind
    refine ⟨hsound.regular.evaluate hfind hpresent.name hpresent.named, fun other => ?_⟩
    by_cases hother : field = other
    · subst hother
      rw [view_evaluate_self c hfind hpresent.name hpresent.named]
      exact hpresent.intact_evaluated _
    · rw [view_evaluate_of_ne c hfind hpresent.name hpresent.named hother]
      have hmove : Move c.engine other (c.view other)
          { c.view other with issued := (c.view other).issued + 1 } := .elsewhere (Nat.le_succ _)
      exact (hsound.intact other).move hmove

theorem view_evaluate_later (hsound : c.Sound) (hne : field ≠ other) :
    (c.view other).Later ((c.evaluate field).1.view other) := by
  refine ⟨(c.view other).issued + 1, Nat.le_succ _, ?_⟩
  cases hfind : c.fields.find? field with
  | none => exact view_evaluate_of_unregistered_of_ne c hfind hne
  | some state =>
    have hpresent := hsound.present hfind
    exact view_evaluate_of_ne c hfind hpresent.name hpresent.named hne

theorem Sound.engine_evaluate (hsound : c.Sound) (field : String) :
    (c.evaluate field).1.engine = c.engine := by
  cases hfind : c.fields.find? field with
  | none => exact (evolves_evaluate_of_unregistered hsound hfind).engine
  | some state =>
    have hpresent := hsound.present hfind
    exact evaluate_engine hfind hpresent.name hpresent.named

theorem Sound.fails_of_evaluate (hsound : c.Sound) (field : String) (e : ConfigError)
    (herror : (c.evaluate field).2 = .error e) : c.engine.Fails := by
  cases hfind : c.fields.find? field with
  | none =>
    rw [evaluate_of_unregistered c hfind] at herror
    cases herror
  | some state =>
    have hpresent := hsound.present hfind
    rw [evaluate_eq c hfind hpresent.name hpresent.named] at herror
    cases hresult : c.evaluation state with
    | ok found =>
      rw [hresult] at herror
      cases herror
    | error cause => exact ⟨state, _, _, cause, hpresent.compiled, hresult⟩

/-- The evaluation of a field that has been renewed is one move with that. -/
theorem moves_evaluate_of_renewed (hsound : c.Sound) {v : View}
    (hrenewed : v.Renewed field (c.view field)) :
    Moves c.engine field v ((c.evaluate field).1.view field) := by
  obtain ⟨state, hstate⟩ := (Prepares.renewed hrenewed).exists_state
  have hpresent := (hsound.intact field).present state hstate
  rw [view_evaluate_self c hstate hpresent.name hpresent.named, evaluation, hpresent.name]
  exact .single (.evaluated (.renewed hrenewed) hstate _)

/-- What becomes of the fields that have been renewed, and of the others. -/
structure AllEvaluated (c c' : Context) (fields : List String) : Prop where
  sound : c'.Sound
  engine : c'.engine = c.engine
  others : ∀ field ∉ fields, (c.view field).Later (c'.view field)
  moves : ∀ field ∈ fields, ∀ v : View, v.Renewed field (c.view field) →
    Moves c.engine field v (c'.view field)

theorem allEvaluated (fields : List String) :
    ∀ {c : Context}, c.Sound → fields.Nodup → AllEvaluated c (c.evaluateAll fields).1 fields := by
  induction fields with
  | nil =>
    exact fun hsound _ => ⟨hsound, rfl, fun _ _ => .refl _, fun _ hmem => absurd hmem
      List.not_mem_nil⟩
  | cons head rest ih =>
    intro c hsound hnodup
    rw [List.nodup_cons] at hnodup
    have hhead := hsound.evaluate head
    have hengine := hsound.engine_evaluate head
    have hlater := fun field (hne : head ≠ field) => view_evaluate_later hsound hne
    have hrenewed := fun v (hv : View.Renewed head v (c.view head)) =>
      moves_evaluate_of_renewed hsound hv
    have hfails := fun e => hsound.fails_of_evaluate head e
    rw [evaluateAll]
    generalize c.evaluate head = evaluated at hhead hengine hlater hrenewed hfails
    obtain ⟨d, result⟩ := evaluated
    cases result with
    | error e =>
      -- the fields after this one keep what the reset has made of them
      refine ⟨hhead, hengine, fun field hnot => ?_, fun field hmem v hv => ?_⟩
      · rw [List.mem_cons, not_or] at hnot
        exact hlater field (Ne.symm hnot.1)
      · by_cases hfield : head = field
        · subst hfield
          exact hrenewed v hv
        · exact .single (.abandoned (hv.later (hlater field hfield)) (hfails e rfl))
    | ok =>
      have hrest := ih hhead hnodup.2
      refine ⟨hrest.sound, hrest.engine.trans hengine, fun field hnot => ?_,
        fun field hmem v hv => ?_⟩
      · rw [List.mem_cons, not_or] at hnot
        exact (hlater field (Ne.symm hnot.1)).trans (hrest.others field hnot.2)
      · by_cases hfield : head = field
        · subst hfield
          exact (hrenewed v hv).trans ((hrest.others head hnodup.1).moves _)
        · have hmoves := hrest.moves field ((List.mem_cons.1 hmem).resolve_left (Ne.symm hfield)) v
            (hv.later (hlater field hfield))
          dsimp only at hengine
          rwa [hengine] at hmoves

/-! ## The reset of a form -/

theorem Regular.clearErrors (hregular : c.Regular) (form : String) :
    (c.clearErrors form).Regular :=
  ⟨hregular.summary.clearForm form, hregular.forms, hregular.clock⟩

theorem Regular.renew (hregular : c.Regular) (emptied : Bool) (field : String) :
    (renew emptied c field).Regular := by
  unfold Context.renew
  cases emptied <;> dsimp only <;> split <;>
    exact ⟨hregular.summary, hregular.forms, hregular.clock⟩

theorem engine_renew (c : Context) (emptied : Bool) (field : String) :
    (renew emptied c field).engine = c.engine := by
  unfold renew
  cases emptied <;> dsimp only <;> split <;> rfl

/-- The context of a form whose fields look new, just before they are evaluated. -/
def renewedForm (c : Context) (form : String) (emptied : Bool) : Context :=
  (c.forms.fields form).foldl (renew emptied) (((c.forms.fields form).foldl outdate c).clearErrors
    form)

theorem Regular.renewedForm (hregular : c.Regular) (form : String) (emptied : Bool) :
    (c.renewedForm form emptied).Regular := by
  refine List.foldlRecOn _ _ (Regular.clearErrors ?_ form) fun d hd field _ => hd.renew emptied field
  exact List.foldlRecOn _ _ hregular fun d hd field _ => (hd.cancel field).invalidate field

theorem engine_renewedForm (c : Context) (form : String) (emptied : Bool) :
    (c.renewedForm form emptied).engine = c.engine := by
  refine List.foldlRecOn (motive := fun d : Context => d.engine = c.engine) _ _ ?_ fun d hd field _ =>
    (engine_renew d emptied field).trans hd
  exact List.foldlRecOn (motive := fun d : Context => d.engine = c.engine) _ _ rfl fun d hd field _ => hd

theorem Sound.named_clearErrors (hsound : c.Sound) (form : String) (fields : List String) :
    ((fields.foldl outdate c).clearErrors form).Named := by
  have hfields : (fields.foldl outdate c).fields = c.fields :=
    List.foldlRecOn (motive := fun d : Context => d.fields = c.fields) _ _ rfl fun d hd field _ => hd
  intro field state hfind
  have hold : c.fields.find? field = some state := hfields ▸ hfind
  exact (hsound.present hold).name

/-- Fields outside of the form are as they were. -/
theorem view_renewedForm_of_notMem (hsound : c.Sound) (emptied : Bool)
    (hnot : field ∉ c.forms.fields form) :
    (c.view field).Later ((c.renewedForm form emptied).view field) := by
  have hregular : ((c.forms.fields form).foldl outdate c).Regular :=
    List.foldlRecOn _ _ hsound.regular fun d hd field _ => (hd.cancel field).invalidate field
  have hform : c.forms.formOf? field ≠ some form :=
    (hsound.regular.forms.mem_iff form field).not.1 hnot
  obtain ⟨issued, hissued, hview⟩ := (view_foldl_outdate (c.forms.fields form) c).1 hnot
  refine ⟨issued, hissued, ?_⟩
  rw [renewedForm, view_foldl_renew_of_notMem emptied _ _ (hsound.named_clearErrors form _) hnot,
    view_clearErrors hregular, hview]
  dsimp only
  rw [hsound.filter_entry hform]

/-- A field of the form has been renewed. -/
theorem view_renewedForm (hsound : c.Sound) (emptied : Bool) (hmem : field ∈ c.forms.fields form) :
    (c.view field).Renewed field ((c.renewedForm form emptied).view field) := by
  have hregular : ((c.forms.fields form).foldl outdate c).Regular :=
    List.foldlRecOn _ _ hsound.regular fun d hd field _ => (hd.cancel field).invalidate field
  have hform : c.forms.formOf? field = some form := (hsound.regular.forms.mem_iff _ _).1 hmem
  obtain ⟨state, hfind⟩ := hsound.exists_state_of_mem hmem
  obtain ⟨current, issued, hcurrent, hissued, hview⟩ :=
    (view_foldl_outdate (c.forms.fields form) c).2 hmem
  have hcleared := view_clearErrors hregular form field
  rw [hview] at hcleared
  dsimp only at hcleared
  rw [hsound.filter_entry_self hform] at hcleared
  obtain ⟨touched, hrenewed⟩ := view_foldl_renew emptied (c.forms.fields form) _
    (hsound.named_clearErrors form _) (hsound.regular.forms.nodup form) hmem
    ((congrArg View.state hcleared).trans hfind)
  rw [renewedForm, hrenewed, hcleared]
  exact .intro hfind touched emptied hcurrent hissued

theorem Sound.renewedForm (hsound : c.Sound) (form : String) (emptied : Bool) :
    (c.renewedForm form emptied).Sound where
  regular := hsound.regular.renewedForm form emptied
  intact field := by
    by_cases hmem : field ∈ c.forms.fields form
    · exact (hsound.intact field).prepares (.renewed (view_renewedForm hsound emptied hmem))
    · exact (hsound.intact field).moves
        ((view_renewedForm_of_notMem hsound emptied hmem).moves c.engine)

theorem find?_foldl_remove (fields : List String) :
    ∀ c : Context, (field ∈ fields ∨ c.fields.find? field = none) →
      (fields.foldl remove c).fields.find? field = none := by
  induction fields with
  | nil => exact fun c h => h.resolve_left List.not_mem_nil
  | cons head rest ih =>
    intro c h
    refine ih (c.remove head) ?_
    by_cases hhead : head = field
    · exact .inr (hhead ▸ find?_remove_self c head)
    · rw [List.mem_cons, or_iff_right (Ne.symm hhead)] at h
      exact h.imp_right (congrArg View.state (view_remove_of_ne hhead)).trans

theorem view_foldl_remove_of_notMem (fields : List String) :
    ∀ c : Context, field ∉ fields → (fields.foldl remove c).view field = c.view field := by
  induction fields with
  | nil => exact fun _ _ => rfl
  | cons head rest ih =>
    intro c hnot
    rw [List.mem_cons, not_or] at hnot
    exact (ih (c.remove head) hnot.2).trans (view_remove_of_ne (Ne.symm hnot.1))

/-- No errors of a form are left when all its fields have been removed. -/
theorem evolves_removeForm (hsound : c.Sound) (form : String) :
    Evolves c (((c.forms.fields form).foldl remove c).clearErrors form) := by
  have hremove : Evolves c ((c.forms.fields form).foldl remove c) :=
    .foldl (fun c field hsound => evolves_remove hsound field) _ hsound
  have hsound' := hremove.sound hsound
  refine hremove.trans (.of_view_eq (hsound'.regular.clearErrors form) rfl fun field => ?_)
  rw [view_clearErrors hsound'.regular]
  by_cases hmem : field ∈ c.forms.fields form
  · have hentry := (hsound'.absent (find?_foldl_remove _ c (.inl hmem))).entry
    refine View.ext rfl rfl rfl ?_ rfl rfl rfl rfl rfl
    dsimp only
    rw [hentry, Option.filter_none]
  · have hform : ((c.forms.fields form).foldl remove c).forms.formOf? field ≠ some form := by
      have hview := congrArg View.form (view_foldl_remove_of_notMem _ c hmem)
      rw [hsound.regular.forms.mem_iff] at hmem
      exact fun h => hmem (hview.symm.trans h)
    rw [hsound'.filter_entry hform]

theorem evolves_resetForm (hsound : c.Sound) (form : String) (options : ResetOptions) :
    Evolves c (c.resetForm form options).1 := by
  unfold resetForm
  dsimp only
  split
  · exact evolves_removeForm hsound form
  · have hall := allEvaluated (c.forms.fields form)
      (hsound.renewedForm form options.emptyValues) (hsound.regular.forms.nodup form)
    have hengine := engine_renewedForm c form options.emptyValues
    refine ⟨hall.sound.regular, hall.engine.trans hengine, fun field => ?_⟩
    by_cases hmem : field ∈ c.forms.fields form
    · have hmoves := hall.moves field hmem _ (view_renewedForm hsound options.emptyValues hmem)
      rwa [hengine] at hmoves
    · exact ((view_renewedForm_of_notMem hsound options.emptyValues hmem).moves _).trans
        ((hall.others field hmem).moves _)

end Context

end FieldRules
