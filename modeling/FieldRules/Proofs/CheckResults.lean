import FieldRules.Proofs.Enrollment

/-!
# What checking a definition lists

Checking a definition lists the invalid fields form by form.  A field of a form is
listed with what was wrong with it when it was registered, and a field without a
form with what is wrong with it when all fields have their values.

* `checkForms_spec`, `checkLoose_spec`: the fields of the forms, and the others.
* `Definition.verdict?`: what a check finds wrong with a field.
* `results_spec`: what is listed.
-/

namespace FieldRules

/-! ## Checking a form when nothing waits -/

namespace Context

variable {c : Context}

theorem flush_idle (hidle : c.clock.timers = []) (fields : List String) :
    c.flush fields = (c, .ok ()) := by
  induction fields with
  | nil => rfl
  | cons field rest ih =>
    have hnot : c.clock.isPending field = false := by
      rw [Clock.isPending, hidle]
      rfl
    rw [flush, hnot]
    exact ih

theorem checkForm_idle (hidle : c.clock.timers = []) (form : String) :
    c.checkForm form =
      ((c.forms.fields form).foldl reveal c, .ok ((c.forms.fields form).all c.isValid)) := by
  unfold checkForm
  dsimp only
  rw [flush_idle hidle]

theorem reveal_registries (c : Context) (field : String) :
    (c.reveal field).summary = c.summary ∧ (c.reveal field).forms = c.forms := by
  unfold reveal
  split
  · exact ⟨rfl, rfl⟩
  · split <;> exact ⟨rfl, rfl⟩

theorem foldl_reveal_registries (fields : List String) (c : Context) :
    (fields.foldl reveal c).summary = c.summary ∧ (fields.foldl reveal c).forms = c.forms := by
  induction fields generalizing c with
  | nil => exact ⟨rfl, rfl⟩
  | cons field rest ih =>
    obtain ⟨hsummary, hforms⟩ := reveal_registries c field
    exact ⟨(ih _).1.trans hsummary, (ih _).2.trans hforms⟩

end Context

namespace Definition

variable {definition : Definition} {fields : List Registration} {field : Registration}
  {c d : Context} {form : String} {entry : SummaryEntry}

/-- What happens to a context leaves the fields of the definition registered, if it
leaves alone what their evaluations start from. -/
theorem Holds.of_evolves (hholds : Holds definition fields c) (hevolves : Context.Evolves c d)
    (hidle : d.clock.timers = []) (hforms : d.forms = c.forms)
    (hbasis : ∀ name, (d.view name).basis = (c.view name).basis) : Holds definition fields d where
  sound := hevolves.sound hholds.sound
  engine := hevolves.engine.trans hholds.engine
  idle := hidle
  names := hforms ▸ hholds.names
  values name := (congrArg Prod.snd (hbasis name)).trans (hholds.values name)
  stored field hmem := by
    obtain ⟨compiled, state, hcompile, hcallbacks, hstate, hsetup⟩ := hholds.stored field hmem
    obtain ⟨after, hafter, hsame⟩ := Context.exists_state_of_basis (hbasis field.name) hstate
    exact ⟨compiled, after, hcompile, hcallbacks, hafter, hsame.trans hsetup⟩
  absent name hnot := by
    have hstate : (d.fields.find? name).map (·.setup) = (c.fields.find? name).map (·.setup) :=
      congrArg Prod.fst (hbasis name)
    rw [hholds.absent name hnot] at hstate
    exact Option.map_eq_none_iff.1 hstate

theorem Holds.checkForm (hholds : Holds definition fields c) (form : String) :
    Holds definition fields (c.checkForm form).1 ∧ (c.checkForm form).1.summary = c.summary ∧
      (c.checkForm form).1.forms = c.forms := by
  have hnot : ∀ field ∈ c.forms.fields form, c.clock.isPending field = false := by
    intro field _
    rw [Clock.isPending, hholds.idle]
    rfl
  have hevolves := Context.evolves_checkForm hholds.sound form
  obtain ⟨hsummary, hforms⟩ := Context.foldl_reveal_registries (c.forms.fields form) c
  rw [Context.checkForm_idle hholds.idle] at hevolves ⊢
  refine ⟨hholds.of_evolves hevolves ?_ hforms fun name => ?_, hsummary, hforms⟩
  · dsimp only
    rw [Context.foldl_reveal_clock]
    exact hholds.idle
  · exact Context.basis_foldl_reveal _ name hholds.sound hnot

/-! ## What the summary tells -/

/-- The state of a registered field. -/
theorem Holds.exists_state (hholds : Holds definition fields c) (hmem : field ∈ fields) :
    ∃ state, c.fields.find? field.name = some state ∧ state.name = field.name ∧
      state.form = field.form ∧ c.forms.formOf? field.name = field.form ∧
      c.summary.get? field.name = state.problem? := by
  obtain ⟨compiled, state, -, -, hstate, hsetup⟩ := hholds.stored field hmem
  have hpresent := hholds.sound.present hstate
  have hform : state.form = field.form :=
    FieldState.congr_setup (f := (·.form)) (fun _ => rfl) hsetup
  exact ⟨state, hstate, FieldState.name_of_setup hsetup, hform, hpresent.form.symm.trans hform,
    hpresent.entry⟩

/-- Only registered fields are known. -/
theorem Holds.exists_field (hholds : Holds definition fields c) {name : String}
    {state : FieldState} (hstate : c.fields.find? name = some state) :
    ∃ field ∈ fields, field.name = name := by
  by_contra hnone
  rw [hholds.absent name fun field hmem heq => hnone ⟨field, hmem, heq⟩] at hstate
  cases hstate

theorem Holds.mem_fields_iff (hholds : Holds definition fields c) {name : String} :
    name ∈ c.forms.fields form ↔ ∃ field ∈ fields, field.name = name ∧ field.form = some form := by
  rw [hholds.sound.regular.forms.mem_iff]
  constructor
  · intro hform
    obtain ⟨state, hstate⟩ :=
      hholds.sound.exists_state_of_mem ((hholds.sound.regular.forms.mem_iff form name).2 hform)
    obtain ⟨field, hmem, rfl⟩ := hholds.exists_field hstate
    obtain ⟨_, -, -, -, hhome, -⟩ := hholds.exists_state hmem
    exact ⟨field, hmem, rfl, hhome.symm.trans hform⟩
  · rintro ⟨field, hmem, rfl, hform⟩
    obtain ⟨_, -, -, -, hhome, -⟩ := hholds.exists_state hmem
    exact hhome.trans hform

/-- A field is valid if the summary has nothing about it. -/
theorem Holds.isValid_iff (hholds : Holds definition fields c) (hmem : field ∈ fields) :
    c.isValid field.name = true ↔ c.summary.get? field.name = none := by
  obtain ⟨state, hstate, -, -, -, hentry⟩ := hholds.exists_state hmem
  rw [hentry, Context.isValid, hstate, FieldState.problem?]
  cases hvalid : state.valid <;> simp [hvalid]

/-- The entries of a form are those of its fields. -/
theorem Holds.mem_byForm_iff (hholds : Holds definition fields c) :
    entry ∈ c.summary.byForm form ↔
      ∃ field ∈ fields, field.form = some form ∧ c.summary.get? field.name = some entry := by
  have hunique := hholds.sound.regular.summary
  rw [Summary.byForm, List.mem_filter, decide_eq_true_iff]
  constructor
  · rintro ⟨hmem, hform⟩
    have hget := (Summary.get?_eq_some_iff hunique).2 ⟨hmem, rfl⟩
    cases hstate : c.fields.find? entry.field with
    | none =>
      rw [show c.summary.get? entry.field = none from (hholds.sound.absent hstate).entry] at hget
      cases hget
    | some state =>
      obtain ⟨field, hfield, hname⟩ := hholds.exists_field hstate
      rw [← hname] at hget
      obtain ⟨state, -, -, hstateForm, -, hentry⟩ := hholds.exists_state hfield
      refine ⟨field, hfield, ?_, hget⟩
      rw [hget, FieldState.problem?] at hentry
      split at hentry
      · cases hentry
      · rw [← hstateForm, ← hform, Option.some.inj hentry]
        rfl
  · rintro ⟨field, hfield, hform, hget⟩
    obtain ⟨state, -, -, hstateForm, -, hentry⟩ := hholds.exists_state hfield
    refine ⟨((Summary.get?_eq_some_iff hunique).1 hget).1, ?_⟩
    rw [hget, FieldState.problem?] at hentry
    split at hentry
    · cases hentry
    · rw [Option.some.inj hentry]
      exact hstateForm.trans hform

end Definition

/-! ## The fields of the forms -/

namespace Command

variable {definition : Definition} {fields : List Registration} {field : Registration}
  {c d : Context} {form : String} {entry : SummaryEntry} {results : FormResults}

/-- The result lists some entries once each, and is valid if there are none. -/
structure FormResult.Lists (result : FormResult) (IsWrong : SummaryEntry → Prop) : Prop where
  nodup : result.errors.Nodup
  mem_iff : ∀ entry, entry ∈ result.errors ↔ IsWrong entry
  valid_iff : result.valid = true ↔ ∀ entry, ¬ IsWrong entry

theorem FormResult.Lists.congr {result : FormResult} {IsWrong IsWrong' : SummaryEntry → Prop}
    (hlists : result.Lists IsWrong) (hiff : ∀ entry, IsWrong' entry ↔ IsWrong entry) :
    result.Lists IsWrong' where
  nodup := hlists.nodup
  mem_iff entry := (hlists.mem_iff entry).trans (hiff entry).symm
  valid_iff := hlists.valid_iff.trans (forall_congr' fun entry => not_congr (hiff entry).symm)

/-- An entry of the summary is about a field of a form. -/
def IsOfForm (c : Context) (fields : List Registration) (form : String) (entry : SummaryEntry) :
    Prop :=
  ∃ field ∈ fields, field.form = some form ∧ c.summary.get? field.name = some entry

/-- A form that is checked is listed with the entries of its fields. -/
theorem lists_checkForm (hholds : definition.Holds fields c) (form : String) :
    ∃ valid, (c.checkForm form).2 = .ok valid ∧
      FormResult.Lists ⟨valid, (c.checkForm form).1.summary.byForm form⟩
        (IsOfForm c fields form) := by
  obtain ⟨-, hsummary, -⟩ := hholds.checkForm form
  rw [hsummary, Context.checkForm_idle hholds.idle]
  have hnodup := (List.Nodup.of_map _ hholds.sound.regular.summary).filter (·.form = some form)
  refine ⟨_, rfl, hnodup, fun entry => hholds.mem_byForm_iff, ?_⟩
  dsimp only
  rw [List.all_eq_true]
  constructor
  · rintro hvalid entry ⟨field, hmem, hform, hentry⟩
    have hfield := hvalid field.name (hholds.mem_fields_iff.2 ⟨field, hmem, rfl, hform⟩)
    rw [hholds.isValid_iff hmem, hentry] at hfield
    cases hfield
  · intro hnone name hname
    obtain ⟨field, hmem, rfl, hform⟩ := hholds.mem_fields_iff.1 hname
    rw [hholds.isValid_iff hmem, Option.eq_none_iff_forall_ne_some]
    exact fun entry hentry => hnone entry ⟨field, hmem, hform, hentry⟩

/-- All forms that are checked are listed, and nothing else changes. -/
theorem checkForms_spec (forms : List String) :
    ∀ {c : Context} {results : FormResults}, definition.Holds fields c →
      (results.map (·.1)).Nodup →
      ∃ d found, checkForms c results forms = .ok (d, found) ∧ definition.Holds fields d ∧
        d.summary = c.summary ∧ (found.map (·.1)).Nodup ∧
        (∀ form ∈ forms, ∃ result, found.find? form = some result ∧
          result.Lists (IsOfForm c fields form)) ∧
        ∀ form, form ∉ forms → found.find? form = results.find? form := by
  induction forms with
  | nil =>
    exact fun hholds hnodup => ⟨_, _, rfl, hholds, rfl, hnodup, fun _ h => absurd h List.not_mem_nil,
      fun _ _ => rfl⟩
  | cons form rest ih =>
    intro c results hholds hnodup
    obtain ⟨valid, hvalid, hlists⟩ := lists_checkForm hholds form
    obtain ⟨hafter, hsummary, -⟩ := hholds.checkForm form
    rw [checkForms]
    generalize c.checkForm form = checked at hvalid hlists hafter hsummary
    obtain ⟨after, answer⟩ := checked
    cases hvalid
    dsimp only at hlists hafter hsummary ⊢
    have hsame : IsOfForm after fields = IsOfForm c fields := by
      unfold IsOfForm
      rw [hsummary]
    obtain ⟨d, found, hrest, hd, hkept, hkeys, hfound, hothers⟩ :=
      ih hafter (Assoc.nodup_keys_put hnodup form ⟨valid, after.summary.byForm form⟩)
    rw [hsame] at hfound
    refine ⟨d, found, hrest, hd, hkept.trans hsummary, hkeys, fun name hmem => ?_,
      fun name hnot => ?_⟩
    · by_cases hmem' : name ∈ rest
      · exact hfound name hmem'
      · obtain rfl := (List.mem_cons.1 hmem).resolve_right hmem'
        refine ⟨_, (hothers name hmem').trans (Assoc.find?_put_self _ _ _), hlists⟩
    · rw [List.mem_cons, not_or] at hnot
      exact (hothers name hnot.2).trans (Assoc.find?_put_of_ne _ _ (Ne.symm hnot.1))

end Command

/-! ## The fields without a form -/

theorem Registration.valueIn_of_mem {fields : List Registration} {field : Registration}
    (hnames : (fields.map (·.name)).Nodup) (hmem : field ∈ fields) :
    valueIn fields field.name = field.value := by
  unfold valueIn
  cases hfound : fields.find? (·.name = field.name) with
  | none =>
    rw [List.find?_eq_none] at hfound
    exact absurd (decide_eq_true rfl) (hfound field hmem)
  | some other =>
    have hname : other.name = field.name := by simpa using List.find?_some hfound
    rw [List.inj_on_of_nodup_map hnames (List.mem_of_find?_eq_some hfound) hmem hname]
    rfl

namespace Context

variable {c : Context} {state : FieldState} {field other : String} {report : Report}

/-- The context in which a field is about to be validated. -/
def touched (c : Context) (state : FieldState) : Context :=
  (c.put { state with touched := true }).cancel state.name

theorem find?_touched (hname : state.name = field) :
    (c.touched state).fields.find? field = some { state with touched := true } := by
  subst hname
  exact Assoc.find?_put_self c.fields _ _

theorem view_touched_of_ne (hne : state.name ≠ other) :
    (c.touched state).view other = c.view other := by
  rw [touched, view_cancel_of_ne _ hne, view_put_of_ne _ (by exact hne)]

theorem idle_touched (hidle : c.clock.timers = []) : (c.touched state).clock.timers = [] := by
  rw [touched, cancel, Clock.cancel, put, hidle]
  rfl

theorem validate_eq (hfind : c.fields.find? field = some state) (hname : state.name = field)
    (hok : ((c.touched state).evaluate field).2 = .ok ())
    (hreport : ((c.touched state).evaluate field).1.report? field = some report) :
    c.validate field = (((c.touched state).evaluate field).1, .ok report) := by
  subst hname
  unfold validate
  rw [hfind]
  dsimp only
  rw [← touched]
  generalize (c.touched state).evaluate state.name = evaluated at *
  obtain ⟨d, result⟩ := evaluated
  cases hok
  dsimp only at hreport ⊢
  rw [hreport]

end Context

namespace Definition

variable {definition : Definition} {fields : List Registration} {field : Registration} {c : Context}

/-- A registered field is validated with the values of all fields. -/
theorem Holds.validate (hholds : definition.Holds fields c) (hmem : field ∈ fields)
    (hnames : (fields.map (·.name)).Nodup) :
    ∃ d report, c.validate field.name = (d, .ok report) ∧ definition.Holds fields d ∧
      d.summary.get? field.name = definition.problem? fields field ∧
      (∀ other, field.name ≠ other → d.summary.get? other = c.summary.get? other) ∧
      report.form = field.form ∧
      (if report.valid then none
        else some ⟨report.name, report.form, report.friendlyName, report.message⟩) =
        definition.problem? fields field := by
  obtain ⟨compiled, state, hcompile, hcallbacks, hstate, hsetup⟩ := hholds.stored field hmem
  have hpresent := hholds.sound.present hstate
  have hname : state.name = field.name := hpresent.name
  have hfind := Context.find?_touched (c := c) hname
  obtain ⟨hok, after, hafter, hsame, hproblem⟩ :=
    evaluate_spec (c := c.touched state) hholds.engine hholds.values hpresent.named hcompile
      hcallbacks hfind hsetup ((hholds.values _).trans (Registration.valueIn_of_mem hnames hmem))
  obtain ⟨report, hreport, hform, hentry⟩ : ∃ report,
      ((c.touched state).evaluate field.name).1.report? field.name = some report ∧
      report.form = after.form ∧ (if report.valid then none
        else some ⟨report.name, report.form, report.friendlyName, report.message⟩) =
        after.problem? := by
    rw [Context.report?, hafter]
    exact ⟨_, rfl, rfl, rfl⟩
  have hvalidate := Context.validate_eq hstate hname hok hreport
  have hevolves := Context.evolves_validate hholds.sound field.name
  rw [hvalidate] at hevolves
  obtain ⟨hforms, hvalues, -⟩ := Context.evaluate_registries hfind hname hpresent.named
  have hothers : ∀ other, field.name ≠ other →
      ((c.touched state).evaluate field.name).1.view other =
        { c.view other with issued := (c.view other).issued + 1 } := by
    intro other hother
    rw [Context.view_evaluate_of_ne _ hfind hname hpresent.named hother,
      Context.view_touched_of_ne (hname ▸ hother)]
  refine ⟨_, report, hvalidate, hholds.of_evolves hevolves ?_ hforms fun name => ?_,
    (((hevolves.sound hholds.sound).present hafter).entry).trans hproblem,
    fun other hother => congrArg View.entry (hothers other hother), ?_, hentry.trans hproblem⟩
  · rw [Context.evaluate_clock_eq, Context.idle_touched hholds.idle]
  · by_cases hother : field.name = name
    · subst hother
      refine Prod.ext ?_ (congrArg (Assoc.find? · field.name) hvalues)
      change (Assoc.find? _ _).map _ = (Assoc.find? _ _).map _
      rw [hafter, hstate, Option.map_some, Option.map_some, hsame, hsetup]
    · rw [hothers name hother]
      rfl
  · exact hform.trans (FieldState.congr_setup (f := (·.form)) (fun _ => rfl) hsame)

end Definition

namespace Command

variable {definition : Definition} {fields : List Registration} {c : Context} {form : String}

/-- The results with the entries of invalid fields that are in no form. -/
def withLoose (results : FormResults) (entries : List SummaryEntry) : FormResults :=
  entries.foldl (fun results entry =>
    results.put "" ⟨false, ((results.find? "").map (·.errors)).getD [] ++ [entry]⟩) results

theorem find?_withLoose_of_ne (results : FormResults) (entries : List SummaryEntry)
    (hform : form ≠ "") : (withLoose results entries).find? form = results.find? form := by
  induction entries generalizing results with
  | nil => rfl
  | cons entry rest ih => exact (ih _).trans (Assoc.find?_put_of_ne _ _ (Ne.symm hform))

/-- They are listed behind those of the form with the empty name. -/
theorem find?_withLoose (results : FormResults) {entries : List SummaryEntry}
    (hentries : entries ≠ []) :
    (withLoose results entries).find? "" =
      some ⟨false, ((results.find? "").map (·.errors)).getD [] ++ entries⟩ := by
  induction entries generalizing results with
  | nil => exact absurd rfl hentries
  | cons entry rest ih =>
    rw [withLoose, List.foldl_cons, ← withLoose]
    by_cases hrest : rest = []
    · subst hrest
      exact Assoc.find?_put_self _ _ _
    · rw [ih _ hrest, Assoc.find?_put_self, Option.map_some, Option.getD_some, List.append_assoc]
      rfl

theorem nodup_withLoose {results : FormResults} (hnodup : (results.map (·.1)).Nodup)
    (entries : List SummaryEntry) : ((withLoose results entries).map (·.1)).Nodup := by
  induction entries generalizing results with
  | nil => exact hnodup
  | cons entry rest ih => exact ih (Assoc.nodup_keys_put hnodup _ _)

/-- The fields that are in no form are validated with the values of all fields. -/
theorem checkLoose_spec (hnames : (fields.map (·.name)).Nodup) (loose : List Registration) :
    ∀ {c : Context} {results : FormResults}, definition.Holds fields c →
      (∀ field ∈ loose, field ∈ fields ∧ field.form = none) →
      checkLoose c results (loose.map (·.name)) =
        .ok (withLoose results (loose.filterMap (definition.problem? fields))) := by
  induction loose with
  | nil => exact fun _ _ => rfl
  | cons field rest ih =>
    intro c results hholds hloose
    obtain ⟨hmem, hnone⟩ := hloose field List.mem_cons_self
    have hothers := fun other hmem => hloose other (List.mem_cons_of_mem field hmem)
    obtain ⟨d, report, hvalidate, hd, -, -, hform, hproblem⟩ := hholds.validate hmem hnames
    rw [List.map_cons, checkLoose, hvalidate]
    dsimp only
    rw [ih hd hothers, List.filterMap_cons, ← hproblem]
    split
    · rfl
    · rw [hform, hnone]
      rfl

/-! ## What is listed -/

end Command

/-- What a check finds wrong with a field. -/
def Definition.verdict? (definition : Definition) (field : Registration) : Option SummaryEntry :=
  definition.problem?
    (if field.form.isSome then Registration.upTo definition.fields field else definition.fields)
    field

namespace Command

variable {definition : Definition} {form : String}

/-- An entry of a form, or of the fields without a form under the empty name. -/
def IsWrong (definition : Definition) (form : String) (entry : SummaryEntry) : Prop :=
  ∃ field ∈ definition.fields, field.form.getD "" = form ∧
    definition.verdict? field = some entry

/-- The results list the forms and the fields that are invalid in no form, with what
the check finds wrong with their fields. -/
structure Tells (definition : Definition) (results : FormResults) : Prop where
  nodup : (results.map (·.1)).Nodup
  lists : ∀ form result, results.find? form = some result →
    result.Lists (IsWrong definition form)
  listed_iff : ∀ form, (results.find? form).isSome = true ↔
    (∃ field ∈ definition.fields, field.form = some form) ∨
      ∃ entry, IsWrong definition form entry

/-- What is wrong with a field is entered under its name and form. -/
theorem of_problem? {listed : List Registration} {field : Registration} {entry : SummaryEntry}
    (hproblem : definition.problem? listed field = some entry) :
    entry.field = field.name ∧ entry.form = field.form := by
  rw [Definition.problem?] at hproblem
  split at hproblem
  · split at hproblem
    · cases hproblem
    · rw [← Option.some.inj hproblem]
      exact ⟨rfl, rfl⟩
  · cases hproblem

/-- The entries of the fields that are in no form. -/
def looseEntries (definition : Definition) : List SummaryEntry :=
  (definition.fields.filter (·.form.isNone)).filterMap
    (definition.problem? definition.fields)

theorem mem_looseEntries {entry : SummaryEntry} :
    entry ∈ looseEntries definition ↔
      ∃ field ∈ definition.fields, field.form = none ∧ definition.verdict? field = some entry := by
  rw [looseEntries, List.mem_filterMap]
  constructor
  · rintro ⟨field, hmem, hentry⟩
    obtain ⟨hmem, hnone⟩ := List.mem_filter.1 hmem
    rw [Option.isNone_iff_eq_none] at hnone
    refine ⟨field, hmem, hnone, ?_⟩
    rw [Definition.verdict?, hnone]
    exact hentry
  · rintro ⟨field, hmem, hnone, hentry⟩
    rw [Definition.verdict?, hnone] at hentry
    exact ⟨field, List.mem_filter.2 ⟨hmem, by rw [hnone]; rfl⟩, hentry⟩

/-- Where the names of the fields are different, no field in no form is listed twice. -/
theorem nodup_looseEntries (hnames : (definition.fields.map (·.name)).Nodup) :
    (looseEntries definition).Nodup := by
  have hfields : definition.fields.Pairwise (·.name ≠ ·.name) := List.pairwise_map.1 hnames
  refine List.pairwise_filterMap.2 ((hfields.filter _).imp fun hne entry hentry other hother => ?_)
  rintro rfl
  exact hne ((of_problem? hentry).1.symm.trans (of_problem? hother).1)

/-- What is wrong is wrong with a field of the form, or with one that is in none. -/
theorem isWrong_iff {c : Context} (henrolled : definition.Enrolled definition.fields c)
    (entry : SummaryEntry) :
    IsWrong definition form entry ↔
      IsOfForm c definition.fields form entry ∨ form = "" ∧ entry ∈ looseEntries definition := by
  have hverdict : ∀ {field form}, field ∈ definition.fields → field.form = some form →
      definition.verdict? field = c.summary.get? field.name := by
    intro field form hmem hform
    rw [henrolled.found field hmem, Definition.verdict?, hform]
    rfl
  rw [mem_looseEntries]
  constructor
  · rintro ⟨field, hmem, rfl, hentry⟩
    cases hform : field.form with
    | none => exact .inr ⟨rfl, field, hmem, hform, hentry⟩
    | some home => exact .inl ⟨field, hmem, hform, (hverdict hmem hform).symm.trans hentry⟩
  · rintro (⟨field, hmem, hform, hentry⟩ | ⟨rfl, field, hmem, hform, hentry⟩)
    · exact ⟨field, hmem, by rw [hform]; rfl, (hverdict hmem hform).trans hentry⟩
    · exact ⟨field, hmem, by rw [hform]; rfl, hentry⟩

/-- The results with the entries of the fields in no form are those of the forms,
except under the empty name. -/
theorem find?_withLoose_of_not {results : FormResults}
    (hnot : ¬ (form = "" ∧ looseEntries definition ≠ [])) :
    (withLoose results (looseEntries definition)).find? form = results.find? form := by
  by_cases hform : form = ""
  · rw [not_and, not_not] at hnot
    rw [hnot hform]
    rfl
  · exact find?_withLoose_of_ne _ _ hform

/-- The results list the forms of a context and nothing else. -/
structure ListsForms (c : Context) (fields : List Registration) (results : FormResults) : Prop where
  nodup : (results.map (·.1)).Nodup
  lists : ∀ form ∈ c.forms.names, ∃ result, results.find? form = some result ∧
    result.Lists (IsOfForm c fields form)
  others : ∀ form, form ∉ c.forms.names → results.find? form = none

namespace ListsForms

variable {c : Context} {results : FormResults} {result : FormResult} {entry : SummaryEntry}
  (hlists : ListsForms c definition.fields results)
  (henrolled : definition.Enrolled definition.fields c)
include hlists

theorem isSome_iff : (results.find? form).isSome = true ↔ form ∈ c.forms.names := by
  constructor
  · intro hsome
    by_contra hnot
    rw [hlists.others form hnot] at hsome
    cases hsome
  · intro hmem
    obtain ⟨result, hresult, -⟩ := hlists.lists form hmem
    rw [hresult]
    rfl

theorem lists_of_find? (hresult : results.find? form = some result) :
    result.Lists (IsOfForm c definition.fields form) := by
  obtain ⟨_, hfound, hentries⟩ := hlists.lists form (hlists.isSome_iff.1 (by rw [hresult]; rfl))
  rwa [Option.some.inj (hfound.symm.trans hresult)] at hentries

include henrolled

theorem mem_errors_iff_isOfForm :
    entry ∈ ((results.find? form).map (·.errors)).getD [] ↔
      IsOfForm c definition.fields form entry := by
  cases hresult : results.find? form with
  | some result => exact (hlists.lists_of_find? hresult).mem_iff entry
  | none =>
    refine iff_of_false List.not_mem_nil ?_
    rintro ⟨field, hmem, hform, -⟩
    have hlisted := hlists.isSome_iff.2 ((henrolled.names form).2 ⟨field, hmem, hform⟩)
    rw [hresult] at hlisted
    cases hlisted

/-- The entries under the empty name: a field of the form with this name, and a field in no
form, have different entries. -/
theorem nodup_errors_loose (hnames : (definition.fields.map (·.name)).Nodup) :
    (((results.find? "").map (·.errors)).getD [] ++ looseEntries definition).Nodup := by
  rw [List.nodup_append]
  refine ⟨?_, nodup_looseEntries hnames, fun entry hentry other hother => ?_⟩
  · cases hresult : results.find? "" with
    | none => exact List.nodup_nil
    | some result => exact (hlists.lists_of_find? hresult).nodup
  · rintro rfl
    obtain ⟨field, hmem, hform, hget⟩ := (hlists.mem_errors_iff_isOfForm henrolled).1 hentry
    obtain ⟨loose, -, hnone, hproblem⟩ := mem_looseEntries.1 hother
    rw [henrolled.found field hmem] at hget
    have hhome : field.form = loose.form := (of_problem? hget).2.symm.trans (of_problem? hproblem).2
    rw [hform, hnone] at hhome
    cases hhome

/-- The fields in no form are listed with those of the form with the empty name. -/
theorem lists_loose (hnames : (definition.fields.map (·.name)).Nodup) (hloose : looseEntries definition ≠ []) :
    FormResult.Lists
      ⟨false, ((results.find? "").map (·.errors)).getD [] ++ looseEntries definition⟩
      (IsWrong definition "") := by
  refine ⟨hlists.nodup_errors_loose henrolled hnames, fun entry => ?_,
    iff_of_false nofun fun hnone => ?_⟩
  · rw [isWrong_iff henrolled, List.mem_append, hlists.mem_errors_iff_isOfForm henrolled]
    exact or_congr_right (and_iff_right rfl).symm
  · obtain ⟨entry, hentry⟩ := List.exists_mem_of_ne_nil _ hloose
    exact hnone entry ((isWrong_iff henrolled entry).2 (.inr ⟨rfl, hentry⟩))

/-- Once the forms have been listed, so are the other fields. -/
theorem tells (hnames : (definition.fields.map (·.name)).Nodup) :
    Tells definition (withLoose results (looseEntries definition)) := by
  refine ⟨nodup_withLoose hlists.nodup _, fun form result hresult => ?_, fun form => ?_⟩ <;>
    by_cases hloose : form = "" ∧ looseEntries definition ≠ []
  · obtain ⟨rfl, hloose⟩ := hloose
    rw [find?_withLoose _ hloose, Option.some_inj] at hresult
    exact hresult ▸ hlists.lists_loose henrolled hnames hloose
  · rw [find?_withLoose_of_not hloose] at hresult
    refine (hlists.lists_of_find? hresult).congr fun entry => ?_
    rw [isWrong_iff henrolled, or_iff_left]
    exact fun ⟨hform, hentry⟩ => hloose ⟨hform, List.ne_nil_of_mem hentry⟩
  · obtain ⟨rfl, hloose⟩ := hloose
    rw [find?_withLoose _ hloose]
    obtain ⟨entry, hentry⟩ := List.exists_mem_of_ne_nil _ hloose
    exact iff_of_true rfl (.inr ⟨entry, (isWrong_iff henrolled entry).2 (.inr ⟨rfl, hentry⟩)⟩)
  · rw [find?_withLoose_of_not hloose, hlists.isSome_iff, henrolled.names, or_iff_left_of_imp]
    rintro ⟨entry, hwrong⟩
    rcases (isWrong_iff henrolled entry).1 hwrong with ⟨field, hmem, hform, -⟩ | ⟨hform, hentry⟩
    · exact ⟨field, hmem, hform⟩
    · exact absurd ⟨hform, List.ne_nil_of_mem hentry⟩ hloose

end ListsForms

theorem Tells.perm {found other : FormResults} (htells : Tells definition found)
    (hperm : other.Perm found) : Tells definition other where
  nodup := ((hperm.map _).nodup_iff).2 htells.nodup
  lists form result hresult :=
    htells.lists form result ((Assoc.find?_perm hperm htells.nodup form).symm.trans hresult)
  listed_iff form := by
    rw [Assoc.find?_perm hperm htells.nodup]
    exact htells.listed_iff form

/-- The forms of a definition are listed before the fields that are in none. -/
theorem exists_listed (hplain : definition.Plain)
    (hnamed : ∀ field ∈ definition.fields, field.name ≠ "") :
    ∃ c d listed, definition.context = .ok c ∧
      checkForms c [] c.forms.names = .ok (d, listed) ∧
      definition.Enrolled definition.fields c ∧ definition.Holds definition.fields d ∧
      d.summary = c.summary ∧ ListsForms c definition.fields listed := by
  obtain ⟨c, hc, henrolled⟩ := Definition.exists_context hplain hnamed
  have hstart : (([] : FormResults).map (·.1)).Nodup := List.nodup_nil
  obtain ⟨d, listed, hlisted, hd, hsummary, hnodup, hforms, hothers⟩ :=
    checkForms_spec c.forms.names henrolled.toHolds hstart
  exact ⟨c, d, listed, hc, hlisted, henrolled, hd, hsummary, hnodup, hforms, hothers⟩

/-- What a check lists. -/
theorem results_spec (hplain : definition.Plain)
    (hnamed : ∀ field ∈ definition.fields, field.name ≠ "") :
    ∃ found, results definition = .ok found ∧ Tells definition found := by
  obtain ⟨c, d, listed, hc, hlisted, henrolled, hd, -, hforms⟩ := exists_listed hplain hnamed
  have hloose : checkLoose d listed definition.loose =
      .ok (withLoose listed (looseEntries definition)) :=
    checkLoose_spec hplain.names _ hd fun field hmem => by
      obtain ⟨hmem, hnone⟩ := List.mem_filter.1 hmem
      exact ⟨hmem, Option.isNone_iff_eq_none.1 hnone⟩
  have hresults : results definition =
      .ok ((withLoose listed (looseEntries definition)).mergeSort fun a b => a.1 ≤ b.1) := by
    rw [results, hc]
    dsimp only [bind, Except.bind]
    rw [hlisted]
    dsimp only
    rw [hloose]
    rfl
  exact ⟨_, hresults, (hforms.tells henrolled hplain.names).perm (List.mergeSort_perm _ _)⟩

end Command

end FieldRules
