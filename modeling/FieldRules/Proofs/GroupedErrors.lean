import FieldRules.Proofs.Changes
import FieldRules.Proofs.ListingOrder
import FieldRules.Proofs.PrintedGroups
import FieldRules.Proofs.SummaryAgreement

/-!
# A check lists what is invalid in the end

Whether a form is valid is read off the states of its fields, and its errors are
read off the summary.  The fields in no form are validated after all forms, and
those that are invalid are listed under the empty name, which may be the name of a
form as well.  Nevertheless the groups that are printed agree with each other, and
with the fields as they are when the check ends.  What is printed tells all of this.

* `plain_of_context`: the fields of a definition are registered only if all of them
  have names, and rules that compile and ask no callback.
* `Definition.checked`, `Definition.Checked`: the context in which a check ends.
* `Command.Consistent`: what it means that the groups agree with a context.
* `check_consistent`: they agree with the one in which the check ends, and they are what the
  output tells.
-/

namespace FieldRules

/-! ## Definitions whose fields are registered -/

namespace Context

variable {c : Context} {rules : String} {compiled : Rule.Compiled}

/-- Where there are no callbacks, rules that ask one are refused. -/
theorem callbacks_of_compile (hnone : c.callbacks = []) (hcompile : c.compile rules = .ok compiled) :
    compiled.callbacks = [] := by
  obtain ⟨found, -, hknown⟩ := bind_eq_ok hcompile
  dsimp only at hknown
  split at hknown
  · cases hknown
  · rename_i hall
    cases hknown
    rw [List.find?_eq_none] at hall
    refine List.eq_nil_iff_forall_not_mem.2 fun named hmem => hall named hmem ?_
    rw [hnone]
    rfl

end Context

namespace Definition

variable {definition : Definition} {fields : List Registration} {field : Registration}
  {c d : Context}

/-- Only a field with a name, and with rules that ask no callback, is registered. -/
theorem Enrolled.of_register (henrolled : Enrolled definition fields c)
    (hok : (c.register field).2 = .ok ()) : field.name ≠ "" ∧ field.Immediate := by
  rcases c.register_cases field with ⟨e, hrefused, -⟩ | ⟨compiled, hname, hcompile, -⟩
  · rw [hrefused] at hok
    cases hok
  · exact ⟨hname, compiled, Context.compile_eq_ok hcompile,
      Context.callbacks_of_compile henrolled.callbacks hcompile⟩

theorem Enrolled.of_enroll (rest : List Registration) :
    ∀ {fields : List Registration} {c : Context}, Enrolled definition fields c →
      ((fields ++ rest).map (·.name)).Nodup → Definition.enroll c rest = .ok d →
      ∀ field ∈ rest, field.name ≠ "" ∧ field.Immediate := by
  induction rest with
  | nil => exact fun _ _ _ field hmem => absurd hmem List.not_mem_nil
  | cons field rest ih =>
    intro fields c henrolled hnames henroll
    have hok : (c.register field).2 = .ok () := by
      rw [Definition.enroll] at henroll
      split at henroll
      · rename_i hregister
        rw [hregister]
      · cases henroll
    obtain ⟨hname, himmediate⟩ := henrolled.of_register hok
    have hregistered := (henrolled.register hname himmediate (fresh_of_nodup hnames)).2
    rw [enroll_cons hok] at henroll
    rw [List.append_cons] at hnames
    intro other hmem
    rcases List.mem_cons.1 hmem with rfl | hmem
    · exact ⟨hname, himmediate⟩
    · exact ih hregistered hnames henroll other hmem

/-- All fields of a definition that can be registered have names, and rules that ask
no callback. -/
theorem plain_of_context (hnames : (definition.fields.map (·.name)).Nodup)
    (hcontext : definition.context = .ok c) :
    definition.Plain ∧ ∀ field ∈ definition.fields, field.name ≠ "" := by
  have hall := (enrolled_start definition).of_enroll definition.fields hnames hcontext
  exact ⟨⟨hnames, fun field hmem => (hall field hmem).2⟩, fun field hmem => (hall field hmem).1⟩

/-! ## The context in which a check ends -/

/-- The context in which a check of a definition ends: the forms are checked, and then
the fields that are in none are validated. -/
def checked (definition : Definition) : Except ConfigError Context := do
  let c ← definition.context
  let (c, _) ← Command.checkForms c [] c.forms.names
  return definition.loose.foldl (fun c field => (c.validate field).1) c

/-- The fields of a definition are registered in the context, and the summary has what
a check finds wrong with them. -/
structure Checked (definition : Definition) (c : Context) : Prop
    extends Holds definition definition.fields c where
  found : ∀ field ∈ definition.fields, c.summary.get? field.name = definition.verdict? field

/-- Some fields are validated with the values of all fields, and nothing else changes. -/
theorem Holds.foldl_validate (hnames : (fields.map (·.name)).Nodup) (loose : List Registration) :
    ∀ {c : Context}, Holds definition fields c → (∀ field ∈ loose, field ∈ fields) →
      ∃ d, (loose.map (·.name)).foldl (fun c field => (c.validate field).1) c = d ∧
        Holds definition fields d ∧ ∀ field ∈ fields, d.summary.get? field.name =
          if field ∈ loose then definition.problem? fields field
          else c.summary.get? field.name := by
  induction loose with
  | nil => exact fun hholds _ => ⟨_, rfl, hholds, fun field _ => by simp⟩
  | cons head rest ih =>
    intro c hholds hloose
    obtain ⟨d, report, hvalidate, hd, hhead, hothers, -⟩ :=
      hholds.validate (hloose head List.mem_cons_self) hnames
    obtain ⟨after, hafter, hholds, hfound⟩ :=
      ih hd fun field hmem => hloose field (List.mem_cons_of_mem _ hmem)
    rw [List.map_cons, List.foldl_cons, hvalidate]
    refine ⟨after, hafter, hholds, fun field hmem => (hfound field hmem).trans ?_⟩
    by_cases hrest : field ∈ rest
    · rw [if_pos hrest, if_pos (List.mem_cons_of_mem _ hrest)]
    · rw [if_neg hrest]
      by_cases hfield : field = head
      · rw [hfield, if_pos List.mem_cons_self, hhead]
      · have hne : head.name ≠ field.name := fun hname => hfield
          (List.inj_on_of_nodup_map hnames hmem (hloose head List.mem_cons_self) hname.symm)
        rw [if_neg (by simp [hfield, hrest]), hothers field.name hne]

theorem checked_spec (hplain : definition.Plain)
    (hnamed : ∀ field ∈ definition.fields, field.name ≠ "") :
    ∃ c, definition.checked = .ok c ∧ Checked definition c := by
  obtain ⟨c, d, listed, hc, hlisted, henrolled, hd, hsummary, -⟩ :=
    Command.exists_listed hplain hnamed
  obtain ⟨after, hafter, hholds, hfound⟩ := hd.foldl_validate hplain.names
    (definition.fields.filter (·.form.isNone)) fun field hmem => (List.mem_filter.1 hmem).1
  have hchecked : definition.checked = .ok after := by
    rw [checked, hc]
    dsimp only [bind, Except.bind]
    rw [hlisted]
    exact congrArg Except.ok hafter
  refine ⟨after, hchecked, hholds, fun field hmem => ?_⟩
  rw [hfound field hmem, hsummary, henrolled.found field hmem, verdict?]
  cases hform : field.form with
  | none =>
    have hloose : field ∈ definition.fields.filter (·.form.isNone) :=
      List.mem_filter.2 ⟨hmem, Option.isNone_iff_eq_none.2 hform⟩
    rw [if_pos hloose]
    rfl
  | some form =>
    have hnot : field ∉ definition.fields.filter (·.form.isNone) := by
      rw [List.mem_filter, hform]
      exact fun hloose => Bool.false_ne_true hloose.2
    rw [if_neg hnot]
    rfl

end Definition

/-! ## What is listed about a field -/

/-- The group and the entry under which a field should be listed, if it is invalid. -/
def FieldState.listing (state : FieldState) : List (String × SummaryEntry) :=
  if state.valid then [] else [(state.form.getD "", .ofField state)]

theorem FieldState.mem_listing_iff {state : FieldState} {form : String} {entry : SummaryEntry} :
    (form, entry) ∈ state.listing ↔
      state.valid = false ∧ state.form.getD "" = form ∧ entry = .ofField state := by
  cases hvalid : state.valid <;> simp [listing, hvalid, eq_comm]

/-- A field is listed at most once. -/
theorem FieldState.eq_listing_of_perm {state : FieldState} {found : List (String × SummaryEntry)} :
    found.Perm state.listing → found = state.listing := by
  unfold listing
  split
  · exact List.perm_nil.1
  · exact List.perm_singleton.1

namespace Command

variable {definition : Definition} {c : Context} {found : FormResults} {form field : String}
  {entry : SummaryEntry} {text : String}

/-- The groups and the entries under which a field is listed. -/
def listings (found : FormResults) (field : String) : List (String × SummaryEntry) :=
  found.flatMap fun (form, result) =>
    (result.errors.filter (·.field = field)).map (form, ·)

/-- There is one group of each name, and it is valid if and only if nothing is listed in
it.  The fields that are invalid in a context are listed once each, in the group of their
form, or in the one with the empty name if they are in no form. -/
structure Consistent (c : Context) (found : FormResults) : Prop where
  once : (found.map (·.1)).Nodup
  valid_iff : ∀ form result, (form, result) ∈ found → (result.valid = true ↔ result.errors = [])
  listings_eq : ∀ field, listings found field = (c.fields.find? field).elim [] (·.listing)

theorem mem_listings_iff :
    (form, entry) ∈ listings found field ↔
      entry.field = field ∧ ∃ result, (form, result) ∈ found ∧ entry ∈ result.errors := by
  simp only [listings, List.mem_flatMap, List.mem_map, List.mem_filter, decide_eq_true_eq,
    Prod.exists, Prod.mk.injEq]
  constructor
  · rintro ⟨_, result, hresult, _, ⟨hentry, hfield⟩, rfl, rfl⟩
    exact ⟨hfield, result, hresult, hentry⟩
  · rintro ⟨hfield, result, hresult, hentry⟩
    exact ⟨form, result, hresult, entry, ⟨hentry, hfield⟩, rfl, rfl⟩

/-- What is listed about a field is in different groups, or different. -/
theorem nodup_listings (honce : (found.map (·.1)).Nodup)
    (hnodup : ∀ form result, (form, result) ∈ found → result.errors.Nodup) :
    (listings found field).Nodup := by
  refine List.nodup_flatMap.2 ⟨fun ⟨form, result⟩ hmem => ?_, ?_⟩
  · refine ((hnodup form result hmem).filter _).map fun first second hsame => ?_
    exact (Prod.mk.inj hsame).2
  · refine (List.pairwise_map.1 honce).imp fun {first second} hne => ?_
    rintro ⟨form, entry⟩ hfirst hsecond
    obtain ⟨_, -, hfirst⟩ := List.mem_map.1 hfirst
    obtain ⟨_, -, hsecond⟩ := List.mem_map.1 hsecond
    exact hne ((Prod.mk.inj hfirst).1.trans (Prod.mk.inj hsecond).1.symm)

/-- What a check finds wrong is what is invalid in the end. -/
theorem isWrong_iff_invalid (hchecked : definition.Checked c) :
    IsWrong definition form entry ↔
      ∃ state, c.fields.find? entry.field = some state ∧ (form, entry) ∈ state.listing := by
  simp only [FieldState.mem_listing_iff]
  constructor
  · rintro ⟨field, hmem, hform, hentry⟩
    rw [(of_problem? hentry).1]
    rw [← hchecked.found field hmem] at hentry
    obtain ⟨state, hstate, hvalid, hentry⟩ := hchecked.sound.get?_eq_some_iff.1 hentry
    obtain ⟨_, hsame, -, hhome, -⟩ := hchecked.exists_state hmem
    obtain rfl := Option.some.inj (hstate.symm.trans hsame)
    exact ⟨_, hstate, hvalid, hhome ▸ hform, hentry⟩
  · rintro ⟨state, hstate, hvalid, hform, hentry⟩
    obtain ⟨field, hmem, hname⟩ := hchecked.exists_field hstate
    rw [← hname] at hstate
    obtain ⟨_, hsame, -, hhome, -⟩ := hchecked.exists_state hmem
    obtain rfl := Option.some.inj (hstate.symm.trans hsame)
    refine ⟨field, hmem, hhome ▸ hform, (hchecked.found field hmem).symm.trans ?_⟩
    exact hchecked.sound.get?_eq_some_iff.2 ⟨_, hstate, hvalid, hentry⟩

/-- Results that tell what a check finds are consistent with the context in which it
ends. -/
theorem Tells.consistent (htells : Tells definition found) (hchecked : definition.Checked c) :
    Consistent c found where
  once := htells.nodup
  valid_iff form result hmem := by
    have hlists := htells.lists form result ((Assoc.mem_iff_find? htells.nodup).1 hmem)
    rw [hlists.valid_iff, List.eq_nil_iff_forall_not_mem]
    exact forall_congr' fun entry => not_congr (hlists.mem_iff entry).symm
  listings_eq field := by
    have hnodup : (listings found field).Nodup :=
      nodup_listings htells.nodup fun form result hmem =>
        (htells.lists form result ((Assoc.mem_iff_find? htells.nodup).1 hmem)).nodup
    have hmem : ∀ {form entry}, (form, entry) ∈ listings found field ↔
        entry.field = field ∧
          ∃ state, c.fields.find? entry.field = some state ∧ (form, entry) ∈ state.listing := by
      intro form entry
      rw [mem_listings_iff, ← isWrong_iff_invalid hchecked, ← htells.mem_errors_iff]
      simp only [Assoc.mem_iff_find? htells.nodup]
    cases hstate : c.fields.find? field with
    | none =>
      refine List.eq_nil_iff_forall_not_mem.2 fun ⟨form, entry⟩ hlisted => ?_
      obtain ⟨rfl, state, hfind, -⟩ := hmem.1 hlisted
      rw [hstate] at hfind
      cases hfind
    | some state =>
      refine FieldState.eq_listing_of_perm ((List.perm_ext_iff_of_nodup hnodup ?_).2 ?_)
      · unfold FieldState.listing
        split
        · exact List.nodup_nil
        · exact List.nodup_singleton _
      · rintro ⟨form, entry⟩
        rw [hmem]
        constructor
        · rintro ⟨rfl, _, hfind, hlisted⟩
          rwa [Option.some.inj (hstate.symm.trans hfind)]
        · intro hlisted
          have hfield : entry.field = field := by
            rw [(FieldState.mem_listing_iff.1 hlisted).2.2]
            exact (hchecked.sound.present hstate).name
          exact ⟨hfield, state, hfield ▸ hstate, hlisted⟩

/-- Where a check of a definition whose fields have different names does not end in an
error, it ends with code 0 if and only if all groups that it prints are valid, and they are
consistent with the context in which it ends.  The output tells these groups and what is
listed in them, and nothing else. -/
theorem check_consistent (json : Bool) (hparse : Definition.parse? text = some definition)
    (hnames : (definition.fields.map (·.name)).Nodup) (hdone : (check json text).error = none) :
    ∃ c found, definition.checked = .ok c ∧ results definition = .ok found ∧
      Prints json (check json text).output found ∧
      check json text = .found (found.all (·.2.valid))
        (if json then renderJson found else renderText found) ∧
      ((check json text).code = 0 ↔ ∀ group ∈ found, group.2.valid = true) ∧
      Consistent c found := by
  cases hresults : results definition with
  | error e =>
    simp only [check, hparse, hresults, Ending.failed, reduceCtorEq] at hdone
  | ok found =>
    have hcheck := check_eq_found hparse hresults json
    have hprints := prints_check hparse hresults json
    obtain ⟨c, hcontext, -⟩ := bind_eq_ok hresults
    obtain ⟨hplain, hnamed⟩ := Definition.plain_of_context hnames hcontext
    obtain ⟨found', hfound, htells⟩ := results_spec hplain hnamed
    obtain rfl := Except.ok.inj (hresults.symm.trans hfound)
    obtain ⟨d, hd, hchecked⟩ := Definition.checked_spec hplain hnamed
    refine ⟨d, found, hd, rfl, hprints, hcheck, ?_, htells.consistent hchecked⟩
    rw [hcheck, ← List.all_eq_true]
    cases found.all (·.2.valid) <;> simp [Ending.found]

/-- A field of a form without a name, and one that is in no form. -/
def nameless : Definition where
  fields := [{ name := "word", rules := "required", form := some "" },
    { name := "copy", rules := "match:word", value := some "owl" }]

/-- The two fields as a text. -/
def namelessText : String :=
  "\x7b\"fields\":["
    ++ "\x7b\"name\":\"word\",\"form\":\"\",\"rules\":\"required\"\x7d,"
    ++ "\x7b\"name\":\"copy\",\"rules\":\"match:word\",\"value\":\"owl\"\x7d]\x7d"

/-- Both fields are listed under the empty name, whatever is printed. -/
theorem check_consistent_nameless :
    Definition.parse? namelessText = some nameless ∧ (nameless.fields.map (·.name)).Nodup ∧
      ∀ json, (check json namelessText).error = none ∧
        ∃ c found, nameless.checked = .ok c ∧ results nameless = .ok found ∧
          Prints json (check json namelessText).output found ∧
          check json namelessText = .found (found.all (·.2.valid))
            (if json then renderJson found else renderText found) ∧
          ((check json namelessText).code = 0 ↔ ∀ group ∈ found, group.2.valid = true) ∧
          Consistent c found := by
  have hparse : Definition.parse? namelessText = some nameless := by decide +kernel
  have hnames : (nameless.fields.map (·.name)).Nodup := by decide
  have hdone : ∀ json, (check json namelessText).error = none := by decide +kernel
  exact ⟨hparse, hnames, fun json => ⟨hdone json, check_consistent json hparse hnames (hdone json)⟩⟩

end Command

end FieldRules
