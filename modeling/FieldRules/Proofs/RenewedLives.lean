import FieldRules.Proofs.Lives
import FieldRules.Proofs.Withdrawals

/-!
# The lives of the fields of a form that is reset

A reset works through the fields of its form three times.  To a single field of the form
the three times are one: its life is made to look new, with the values of the form gone,
and is evaluated.

* `Life.emptied`, `Life.renewed`: what a reset does with a life.
* `Context.life_renewedForm`: what the first two times do.
* `Context.life_evaluateAll`: what the third one does.
* `Context.life_resetForm`: the reset.
-/

namespace FieldRules

namespace Life

/-- The life without the values of some fields. -/
def emptied (life : Life) (gone : List String) : Life :=
  { life with values := fun name => if name ∈ gone then none else life.values name }

/-- The life as if nothing had happened to the field yet. -/
def renewed (life : Life) : Life :=
  { life with
    state := life.state.map fun state => state.renewed life.config.preValidate
    entry := none
    timers := []
    ready := [] }

end Life

namespace Context

variable {c : Context} {field form : String} {state : FieldState}

/-! ## Making fields look new -/

theorem config_renew (c : Context) (emptied : Bool) (field : String) :
    (renew emptied c field).config = c.config := by
  unfold renew
  cases emptied <;> dsimp only <;> split <;> rfl

/-- A field of the form is renewed once. -/
theorem find?_fields_foldl_renew (emptied : Bool) (fields : List String) :
    ∀ c : Context, c.Named → fields.Nodup → field ∈ fields → c.fields.find? field = some state →
      (fields.foldl (renew emptied) c).fields.find? field =
        some (state.renewed c.config.preValidate) := by
  induction fields with
  | nil => exact fun _ _ _ hmem => absurd hmem List.not_mem_nil
  | cons head rest ih =>
    intro c hnamed hnodup hmem hfind
    obtain ⟨hhead, hrest⟩ := List.nodup_cons.1 hnodup
    rw [List.foldl_cons]
    by_cases hne : head = field
    · subst hne
      have hlast := view_foldl_renew_of_notMem emptied rest _ (hnamed.renew emptied head) hhead
      have hfirst := view_renew_self hfind (hnamed head state hfind) emptied
      exact (congrArg View.state hlast).trans (congrArg View.state hfirst)
    · have hfirst := congrArg View.state (view_renew_of_ne hnamed emptied hne)
      rw [← config_renew c emptied head]
      exact ih _ (hnamed.renew emptied head) hrest
        ((List.mem_cons.1 hmem).resolve_left (Ne.symm hne)) (hfirst.trans hfind)

/-- What a field is told of the rest, but for the values, is as it was, and so are the
inquiries that are ready and the dependencies. -/
theorem renewedForm_same (c : Context) (form : String) (emptied : Bool) :
    (c.renewedForm form emptied).config = c.config ∧
      (c.renewedForm form emptied).translator = c.translator ∧
      (c.renewedForm form emptied).callbacks = c.callbacks ∧
      (c.renewedForm form emptied).dependencies = c.dependencies := by
  refine List.foldlRecOn _ _ (motive := fun d : Context => d.config = c.config ∧
    d.translator = c.translator ∧ d.callbacks = c.callbacks ∧ d.dependencies = c.dependencies)
    ?_ fun d hd field _ => ?_
  · exact List.foldlRecOn _ _ (motive := fun d : Context => d.config = c.config ∧
      d.translator = c.translator ∧ d.callbacks = c.callbacks ∧ d.dependencies = c.dependencies)
      ⟨rfl, rfl, rfl, rfl⟩ fun d hd field _ => hd
  · unfold renew
    cases emptied <;> dsimp only <;> split <;> exact hd

theorem find?_fields_renewedForm (hsound : c.Sound) (emptied : Bool)
    (hmem : field ∈ c.forms.fields form) (hfind : c.fields.find? field = some state) :
    (c.renewedForm form emptied).fields.find? field =
      some (state.renewed c.config.preValidate) := by
  have hsame : ((c.forms.fields form).foldl outdate c).fields = c.fields ∧
      ((c.forms.fields form).foldl outdate c).config = c.config :=
    List.foldlRecOn _ _ (motive := fun d : Context => d.fields = c.fields ∧ d.config = c.config)
      ⟨rfl, rfl⟩ fun d hd field _ => hd
  have hrenewed := find?_fields_foldl_renew emptied (c.forms.fields form) _
    (hsound.named_clearErrors form _) (hsound.regular.forms.nodup form) hmem
    ((congrArg (Assoc.find? · field) hsame.1).trans hfind)
  rw [← hsame.2]
  exact hrenewed

/-- A reset makes no inquiry before it evaluates. -/
theorem view_inquiries_renewedForm (hsound : c.Sound) (form : String) (emptied : Bool)
    (field : String) :
    ((c.renewedForm form emptied).view field).inquiries = (c.view field).inquiries := by
  by_cases hmem : field ∈ c.forms.fields form
  · have hrenewed := view_renewedForm hsound emptied hmem
    generalize (c.renewedForm form emptied).view field = renewed at hrenewed
    cases hrenewed
    rfl
  · obtain ⟨issued, -, hview⟩ := view_renewedForm_of_notMem hsound emptied hmem
    rw [hview]

theorem generation_le_renewedForm (hreach : c.Reachable) (form : String) (emptied : Bool)
    {inquiry : Inquiry}
    (hmem : inquiry ∈ (c.renewedForm form emptied).ready ++
      (c.renewedForm form emptied).clock.inquiries) :
    inquiry.generation ≤ c.generations.issued := by
  have hview := mem_inquiries_view hmem
  rw [view_inquiries_renewedForm hreach.sound] at hview
  exact (hreach.tracked inquiry.field).counted.inquiry_le hview

theorem issued_renewedForm (hsound : c.Sound) (form : String) (emptied : Bool) :
    c.generations.issued ≤ (c.renewedForm form emptied).generations.issued := by
  by_cases hmem : "" ∈ c.forms.fields form
  · have hrenewed := view_renewedForm hsound emptied hmem
    generalize hview : (c.renewedForm form emptied).view "" = renewed at hrenewed
    cases hrenewed with
    | intro hbefore touched emptied hcurrent hissued =>
      rw [show (c.renewedForm form _).generations.issued = _ from congrArg View.issued hview]
      exact hcurrent.le.trans hissued
  · obtain ⟨issued, hissued, hview⟩ := view_renewedForm_of_notMem hsound emptied hmem
    rw [show (c.renewedForm form _).generations.issued = _ from congrArg View.issued hview]
    exact hissued

theorem timely_renewedForm (hreach : c.Reachable) (form : String) (emptied : Bool) :
    (c.renewedForm form emptied).Timely where
  sound := (hreach.sound.renewedForm form emptied).regular.clock
  sorted := kept_sorted.changes (changes_renewedForm hreach.sound form emptied) hreach.sorted
  numbered _ hmem := (generation_le_renewedForm hreach form emptied hmem).trans
    (issued_renewedForm hreach.sound form emptied)

/-- The life of a field of the form looks new. -/
theorem life_renewedForm (hreach : c.Reachable) (hmem : field ∈ c.forms.fields form) :
    (c.renewedForm form true).life field =
      ((c.life field).emptied (c.forms.fields form)).renewed := by
  have hsound := hreach.sound
  obtain ⟨state, hfind⟩ := hsound.exists_state_of_mem hmem
  obtain ⟨hconfig, htranslator, hcallbacks, hdependencies⟩ := renewedForm_same c form true
  have hstate := find?_fields_renewedForm hsound true hmem hfind
  have htimely := timely_renewedForm hreach form true
  -- what the field has under way is older than its number
  obtain ⟨hentry, hwaiting, number, hnumber, hcurrent⟩ :
      (c.renewedForm form true).summary.get? field = none ∧
        (c.renewedForm form true).clock.isPending field = false ∧
        ∃ number, c.generations.issued < number ∧
          (c.renewedForm form true).generations.current? field = some number := by
    have hrenewed := view_renewedForm hsound true hmem
    generalize hview : (c.renewedForm form true).view field = renewed at hrenewed
    cases hrenewed with
    | intro hbefore touched emptied hcurrent hissued =>
      exact ⟨congrArg View.entry hview, congrArg View.waiting hview, _, hcurrent,
        congrArg View.current hview⟩
  have hunwanted : ∀ inquiry ∈ (c.renewedForm form true).ready ++
      (c.renewedForm form true).clock.inquiries,
        (c.renewedForm form true).wants field inquiry = false := by
    intro inquiry hmem
    have hle := generation_le_renewedForm hreach form true hmem
    have hne : number ≠ inquiry.generation := by omega
    simp [wants, Generations.isCurrent, hcurrent, hne]
  obtain ⟨htimers, hready⟩ := life_of_unwanted htimely.sound hwaiting hunwanted
  ext1
  case config => exact hconfig
  case translator => exact htranslator
  case callbacks => exact congrArg Assoc.find? hcallbacks
  case values => exact funext (find?_values_renewedForm c form)
  case state =>
    change Option.map _ ((c.renewedForm form true).fields.find? field) =
      Option.map _ (Option.map _ (c.fields.find? field))
    rw [hstate, hfind]
    rfl
  case entry => exact hentry
  case edges =>
    change List.filter _ (c.renewedForm form true).dependencies.edges = _
    rw [hdependencies]
    rfl
  case timers => exact htimers
  case ready => exact hready
  all_goals rfl

/-! ## Evaluating the fields of a form -/

theorem isRegistered_life (c : Context) (field : String) :
    c.isRegistered field = (c.life field).state.isSome :=
  Option.isSome_map.symm

theorem life_evaluate_of_ne (horderly : c.Orderly) {other : String} (hne : other ≠ field) :
    (c.evaluate other).1.life field = c.life field := by
  have huntouched := (changes_evaluate horderly (List.mem_singleton_self other)).untouched horderly
  exact life_of_untouched huntouched (by simpa using Ne.symm hne)
    (surroundings_evaluate horderly other)

/-- A field of the form is evaluated once, whatever the other ones are. -/
theorem life_evaluateAll (field : String) (fields : List String) : ∀ {c : Context}, c.Sound → c.Timely →
    ¬ c.engine.Fails → fields.Nodup →
      (field ∉ fields → (c.evaluateAll fields).1.life field = c.life field) ∧
        (field ∈ fields → c.isRegistered field = true →
          (c.evaluateAll fields).1.life field = (c.life field).evaluated) := by
  induction fields with
  | nil => exact fun _ _ _ _ => ⟨fun _ => rfl, fun hmem => absurd hmem List.not_mem_nil⟩
  | cons head rest ih =>
    intro c hsound htimely hfine hnodup
    obtain ⟨hnot, hrest⟩ := List.nodup_cons.1 hnodup
    have hok := evaluate_ok hsound hfine head
    have hfine' : ¬ (c.evaluate head).1.engine.Fails := by
      rwa [hsound.engine_evaluate head]
    have hnext := ih (hsound.evaluate head) (htimely.evaluate hsound.orderly head) hfine' hrest
    have hstep : c.evaluateAll (head :: rest) = (c.evaluate head).1.evaluateAll rest := by
      rw [evaluateAll]
      generalize c.evaluate head = evaluated at hok
      obtain ⟨d, result⟩ := evaluated
      cases hok
      rfl
    rw [hstep]
    by_cases hne : head = field
    · subst hne
      refine ⟨fun h => absurd List.mem_cons_self h, fun _ hregistered => ?_⟩
      obtain ⟨state, hfind⟩ := Option.isSome_iff_exists.1 hregistered
      obtain ⟨hname, hfield⟩ := hsound.orderly.named head state hfind
      rw [hnext.1 hnot, life_evaluate hfind hname hfield htimely]
    · have hsame := life_evaluate_of_ne hsound.orderly hne
      rw [← hsame, List.mem_cons, or_iff_right (Ne.symm hne)]
      refine ⟨hnext.1, fun hmem hregistered => hnext.2 hmem ?_⟩
      rwa [isRegistered_life, hsame, ← isRegistered_life]

/-- A reset that takes the values away renews the life of every field of the form, and
evaluates it without them. -/
theorem life_resetForm (hreach : c.Reachable) (hfine : ¬ c.engine.Fails)
    (hmem : field ∈ c.forms.fields form) :
    (c.resetForm form { emptyValues := true }).1.life field =
      ((c.life field).emptied (c.forms.fields form)).renewed.evaluated := by
  have hsound := hreach.sound
  have hfine' : ¬ (c.renewedForm form true).engine.Fails := by
    rwa [engine_renewedForm]
  obtain ⟨state, hfind⟩ := hsound.exists_state_of_mem hmem
  have hregistered : (c.renewedForm form true).isRegistered field = true := by
    rw [isRegistered, Assoc.has, find?_fields_renewedForm hsound true hmem hfind]
    rfl
  have hall := life_evaluateAll field (c.forms.fields form)
    (hsound.renewedForm form true) (timely_renewedForm hreach form true) hfine'
    (hsound.regular.forms.nodup form)
  rw [resetForm_eq, hall.2 hmem hregistered, life_renewedForm hreach hmem]

end Context

end FieldRules
