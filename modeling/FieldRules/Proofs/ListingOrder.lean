import FieldRules.Proofs.CheckResults
import FieldRules.Proofs.PrintedGroups

/-!
# The order in which a definition lists its fields

A field of a form is evaluated once, when it is registered, with the values of the
fields up to it.  So the verdict on a definition depends on the order of its fields
where a field of a form is compared with one that is listed later.

* `Command.code_check`, `Command.prints_check`: what a check of a text ends with and prints
  tells its results.
* `Command.SameVerdict`: two checks say the same, apart from the order of entries.
* `sameVerdict_iff_verdicts`: the verdicts on all fields have to be the same.
* `sameVerdict_iff`: these are the same if and only if each field of a form is found
  the same with the values of the fields up to it in either order.
* `not_sameVerdict_copyFirst`: a field is listed before the one that it is compared
  with.
-/

namespace FieldRules

theorem Definition.Plain.perm {definition : Definition} {fields : List Registration}
    (hplain : definition.Plain) (hperm : fields.Perm definition.fields) :
    Definition.Plain { definition with fields } where
  names := ((hperm.map _).nodup_iff).2 hplain.names
  rules field hmem := hplain.rules field (hperm.mem_iff.1 hmem)

namespace Command

variable {definition : Definition} {fields : List Registration} {field : Registration}
  {form : String} {entry : SummaryEntry} {text : String}

/-! ## Verdicts -/

/-- The code that a check with some results ends with. -/
def exitCode : Except ConfigError FormResults → Nat
  | .ok results => if results.all (·.2.valid) then 0 else 1
  | .error _ => 2

theorem code_check (hparse : Definition.parse? text = some definition) (json : Bool) :
    (check json text).code = exitCode (results definition) := by
  unfold check
  rw [hparse]
  dsimp only
  cases results definition <;> rfl

theorem check_eq_found {found : FormResults} (hparse : Definition.parse? text = some definition)
    (hfound : results definition = .ok found) (json : Bool) :
    check json text = .found (found.all (·.2.valid))
      (if json then renderJson found else renderText found) := by
  simp only [check, hparse, hfound]

theorem prints_check {found : FormResults} (hparse : Definition.parse? text = some definition)
    (hfound : results definition = .ok found) (json : Bool) :
    Prints json (check json text).output found := by
  rw [check_eq_found hparse hfound]
  exact prints_render json found

/-- The forms that are listed. -/
def groups : Except ConfigError FormResults → FormResults
  | .ok results => results
  | .error _ => []

/-- Two checks end with the same code, and list the same forms as valid or invalid,
with the same entries. -/
structure SameVerdict (first second : Except ConfigError FormResults) : Prop where
  code : exitCode first = exitCode second
  valid : ∀ form, ((groups first).find? form).map (·.valid) =
    ((groups second).find? form).map (·.valid)
  errors : ∀ form entry,
    (∃ result, (groups first).find? form = some result ∧ entry ∈ result.errors) ↔
      ∃ result, (groups second).find? form = some result ∧ entry ∈ result.errors

namespace Tells

variable {found : FormResults} {entry : SummaryEntry}

theorem mem_errors_iff (htells : Tells definition found) :
    (∃ result, found.find? form = some result ∧ entry ∈ result.errors) ↔
      IsWrong definition form entry := by
  constructor
  · rintro ⟨result, hresult, hmem⟩
    exact ((htells.lists form result hresult).mem_iff entry).1 hmem
  · intro hwrong
    obtain ⟨result, hresult⟩ :=
      Option.isSome_iff_exists.1 ((htells.listed_iff form).2 (.inr ⟨entry, hwrong⟩))
    exact ⟨result, hresult, ((htells.lists form result hresult).mem_iff entry).2 hwrong⟩

/-- All forms are valid if nothing is wrong with any field. -/
theorem all_valid_iff (htells : Tells definition found) :
    found.all (·.2.valid) = true ↔ ∀ form entry, ¬ IsWrong definition form entry := by
  rw [List.all_eq_true]
  constructor
  · intro hall form entry hwrong
    obtain ⟨result, hresult, -⟩ := htells.mem_errors_iff.2 hwrong
    have hvalid := hall (form, result) ((Assoc.mem_iff_find? htells.nodup).2 hresult)
    exact (htells.lists form result hresult).valid_iff.1 hvalid entry hwrong
  · rintro hnone ⟨form, result⟩ hmem
    have hresult := (Assoc.mem_iff_find? htells.nodup).1 hmem
    exact (htells.lists form result hresult).valid_iff.2 (hnone form)

variable {definition' : Definition} {found' : FormResults}

/-- Where the same is wrong, the same forms are listed as valid or invalid. -/
theorem valid_congr (htells : Tells definition found) (htells' : Tells definition' found')
    (hfields : ∀ field, field ∈ definition.fields ↔ field ∈ definition'.fields)
    (hwrong : ∀ form entry, IsWrong definition form entry ↔ IsWrong definition' form entry) :
    (found.find? form).map (·.valid) = (found'.find? form).map (·.valid) := by
  have hlisted : (found.find? form).isSome = true ↔ (found'.find? form).isSome = true := by
    rw [htells.listed_iff, htells'.listed_iff]
    simp only [hwrong, hfields]
  have hvalid : ∀ {result result'}, found.find? form = some result →
      found'.find? form = some result' → result.valid = result'.valid := by
    intro result result' hresult hresult'
    rw [Bool.eq_iff_iff, (htells.lists form result hresult).valid_iff,
      (htells'.lists form result' hresult').valid_iff]
    simp only [hwrong]
  cases hresult : found.find? form with
  | none =>
    cases hresult' : found'.find? form with
    | none => rfl
    | some result' => simp [hresult, hresult'] at hlisted
  | some result =>
    cases hresult' : found'.find? form with
    | none => simp [hresult, hresult'] at hlisted
    | some result' => rw [Option.map_some, Option.map_some, hvalid hresult hresult']

/-- Two checks of the same fields say the same if and only if the same is wrong. -/
theorem sameVerdict_iff_wrong (htells : Tells definition found) (htells' : Tells definition' found')
    (hfields : ∀ field, field ∈ definition.fields ↔ field ∈ definition'.fields) :
    SameVerdict (.ok found) (.ok found') ↔
      ∀ form entry, IsWrong definition form entry ↔ IsWrong definition' form entry := by
  constructor
  · intro hsame form entry
    exact htells.mem_errors_iff.symm.trans
      ((hsame.errors form entry).trans htells'.mem_errors_iff)
  · intro hwrong
    refine ⟨?_, fun form => htells.valid_congr htells' hfields hwrong, fun form entry => ?_⟩
    · have hall : found.all (·.2.valid) = found'.all (·.2.valid) := by
        rw [Bool.eq_iff_iff, htells.all_valid_iff, htells'.all_valid_iff]
        simp only [hwrong]
      simp only [exitCode, hall]
    · exact htells.mem_errors_iff.trans ((hwrong form entry).trans htells'.mem_errors_iff.symm)

end Tells

/-! ## Two orders of the fields -/

/-- What is wrong under the name of a field is wrong with this field. -/
theorem IsWrong.verdict (hnames : (definition.fields.map (·.name)).Nodup)
    (hwrong : IsWrong definition form entry) (hmem : field ∈ definition.fields)
    (hfield : entry.field = field.name) : definition.verdict? field = some entry := by
  obtain ⟨other, hother, -, hentry⟩ := hwrong
  have hname : other.name = field.name := (of_problem? hentry).1.symm.trans hfield
  rwa [List.inj_on_of_nodup_map hnames hother hmem hname] at hentry

/-- The same is wrong in two orders of the fields if and only if the verdict is the
same on each field. -/
theorem isWrong_iff_verdicts (hnames : (definition.fields.map (·.name)).Nodup)
    (hperm : fields.Perm definition.fields) :
    (∀ form entry, IsWrong definition form entry ↔
        IsWrong { definition with fields } form entry) ↔
      ∀ field ∈ definition.fields,
        definition.verdict? field = ({ definition with fields } : Definition).verdict? field := by
  constructor
  · intro hwrong field hmem
    refine Option.ext fun entry => ⟨fun hentry => ?_, fun hentry => ?_⟩
    · exact ((hwrong _ entry).1 ⟨field, hmem, rfl, hentry⟩).verdict
        ((hperm.map _).nodup_iff.2 hnames) (hperm.mem_iff.2 hmem) (of_problem? hentry).1
    · exact ((hwrong _ entry).2 ⟨field, hperm.mem_iff.2 hmem, rfl, hentry⟩).verdict hnames hmem
        (of_problem? hentry).1
  · intro hverdicts form entry
    refine exists_congr fun field => ?_
    constructor
    · rintro ⟨hmem, hform, hentry⟩
      exact ⟨hperm.mem_iff.2 hmem, hform, (hverdicts field hmem).symm.trans hentry⟩
    · rintro ⟨hmem, hform, hentry⟩
      exact ⟨hperm.mem_iff.1 hmem, hform, (hverdicts field (hperm.mem_iff.1 hmem)).trans hentry⟩

/-- Two orders of the fields have the same verdict if and only if it is the same on
each field. -/
theorem sameVerdict_iff_verdicts (hplain : definition.Plain)
    (hnamed : ∀ field ∈ definition.fields, field.name ≠ "")
    (hperm : fields.Perm definition.fields) :
    SameVerdict (results definition) (results { definition with fields }) ↔
      ∀ field ∈ definition.fields,
        definition.verdict? field = ({ definition with fields } : Definition).verdict? field := by
  obtain ⟨found, hfound, htells⟩ := results_spec hplain hnamed
  obtain ⟨found', hfound', htells'⟩ := results_spec (hplain.perm hperm) fun field hmem =>
    hnamed field (hperm.mem_iff.1 hmem)
  rw [hfound, hfound', htells.sameVerdict_iff_wrong htells' fun field => hperm.mem_iff.symm]
  exact isWrong_iff_verdicts hplain.names hperm

/-- The order of the fields does not matter where all values are read. -/
theorem valueIn_perm (hnames : (definition.fields.map (·.name)).Nodup)
    (hperm : fields.Perm definition.fields) :
    Registration.valueIn fields = Registration.valueIn definition.fields := by
  funext name
  by_cases hmem : ∃ field ∈ definition.fields, field.name = name
  · obtain ⟨field, hmem, rfl⟩ := hmem
    rw [Registration.valueIn_of_mem hnames hmem,
      Registration.valueIn_of_mem ((hperm.map _).nodup_iff.2 hnames) (hperm.mem_iff.2 hmem)]
  · have hnone : ∀ list : List Registration, (∀ field ∈ list, field ∈ definition.fields) →
        Registration.valueIn list name = none := by
      intro list hsub
      rw [Registration.valueIn, List.find?_eq_none.2]
      · rfl
      · intro field hfield
        rw [decide_eq_true_iff]
        exact fun heq => hmem ⟨field, hsub field hfield, heq⟩
    rw [hnone fields fun _ h => hperm.mem_iff.1 h, hnone definition.fields fun _ h => h]

/-- Two orders of the fields of a definition have the same verdict if and only if a
field without a name is refused in both of them, or each field of a form is found the
same with the values of the fields up to it in either order.  Then checks of their texts
end with the same code; and the verdicts are what such checks print. -/
theorem sameVerdict_iff (hplain : definition.Plain) (hperm : fields.Perm definition.fields) :
    (SameVerdict (results definition) (results { definition with fields }) ↔
      (∃ field ∈ definition.fields, field.name = "") ∨
        ∀ field ∈ definition.fields, field.form.isSome = true →
          definition.problem? (Registration.upTo definition.fields field) field =
            definition.problem? (Registration.upTo fields field) field) ∧
      ∀ json first second, Definition.parse? first = some definition →
        Definition.parse? second = some { definition with fields } →
          (SameVerdict (results definition) (results { definition with fields }) →
            (check json first).code = (check json second).code) ∧
          (∀ found, results definition = .ok found → Prints json (check json first).output found) ∧
          ∀ found, results { definition with fields } = .ok found →
            Prints json (check json second).output found := by
  refine ⟨?_, fun json first second hfirst hsecond => ⟨fun hsame => ?_, ?_, ?_⟩⟩
  · by_cases hunnamed : ∃ field ∈ definition.fields, field.name = ""
    · obtain ⟨field, hmem, hempty⟩ := hunnamed
      refine iff_of_true ?_ (.inl ⟨field, hmem, hempty⟩)
      have hrefused : results definition = .error .missingFieldName := by
        rw [results, Definition.context_unnamed hplain ⟨field, hmem, hempty⟩]
        rfl
      have hrefused' : results { definition with fields } = .error .missingFieldName := by
        rw [results, Definition.context_unnamed (hplain.perm hperm)
          ⟨field, hperm.mem_iff.2 hmem, hempty⟩]
        rfl
      rw [hrefused, hrefused']
      exact ⟨rfl, fun _ => rfl, fun _ _ => Iff.rfl⟩
    · rw [or_iff_right hunnamed, sameVerdict_iff_verdicts hplain
        (fun field hmem hempty => hunnamed ⟨field, hmem, hempty⟩) hperm]
      refine forall₂_congr fun field hmem => ?_
      unfold Definition.verdict?
      cases hform : field.form with
      | none =>
        -- a field that is in no form is found the same in every order
        refine iff_of_true ?_ (by simp)
        dsimp only [Option.isSome_none]
        rw [if_neg Bool.false_ne_true, if_neg Bool.false_ne_true]
        unfold Definition.problem? Definition.evaluation
        rw [valueIn_perm hplain.names hperm]
        rfl
      | some form =>
        dsimp only [Option.isSome_some]
        rw [if_pos rfl, if_pos rfl]
        exact (imp_iff_right rfl).symm
  · rw [code_check hfirst, code_check hsecond, hsame.code]
  · exact fun found hfound => prints_check hfirst hfound json
  · exact fun found hfound => prints_check hsecond hfound json

/-! ## A field before the one that it is compared with -/

/-- A field with a value. -/
def word : Registration :=
  { name := "word", rules := "required", form := some "form", value := some "owl" }

/-- A field that has to have the same value. -/
def copy : Registration :=
  { name := "copy", rules := "match:word", form := some "form", value := some "owl" }

/-- The field `word` as a text. -/
def wordText : String :=
  "\x7b\"name\":\"word\",\"rules\":\"required\",\"form\":\"form\",\"value\":\"owl\"\x7d"

/-- The field `copy` as a text. -/
def copyText : String :=
  "\x7b\"name\":\"copy\",\"rules\":\"match:word\",\"form\":\"form\",\"value\":\"owl\"\x7d"

/-- A definition with some fields as a text. -/
def definitionText (fields : List String) : String :=
  "\x7b\"fields\":[" ++ ",".intercalate fields ++ "]\x7d"

theorem plain_copyFirst : Definition.Plain { fields := [copy, word] } where
  names := by decide
  rules := by decide +kernel

theorem perm_copyFirst : [word, copy].Perm [copy, word] := .swap copy word []

/-- The order of the fields makes a difference to the code. -/
theorem exitCode_copyFirst :
    exitCode (results { fields := [copy, word] }) = 1 ∧
      exitCode (results { fields := [word, copy] }) = 0 :=
  ⟨by decide +kernel, by decide +kernel⟩

/-- Where the copy is listed first, it is compared with a word that has no value yet. -/
theorem not_sameVerdict_copyFirst :
    Definition.Plain { fields := [copy, word] } ∧ [word, copy].Perm [copy, word] ∧
      ¬ SameVerdict (results { fields := [copy, word] }) (results { fields := [word, copy] }) ∧
      ∀ json, (check json (definitionText [copyText, wordText])).code = 1 ∧
        (check json (definitionText [wordText, copyText])).code = 0 := by
  have hcopyFirst : Definition.parse? (definitionText [copyText, wordText]) =
      some { fields := [copy, word] } := by
    decide +kernel
  have hwordFirst : Definition.parse? (definitionText [wordText, copyText]) =
      some { fields := [word, copy] } := by
    decide +kernel
  refine ⟨plain_copyFirst, perm_copyFirst, fun hsame => ?_, fun json =>
    ⟨(code_check hcopyFirst json).trans exitCode_copyFirst.1,
      (code_check hwordFirst json).trans exitCode_copyFirst.2⟩⟩
  have hnamed : ∀ field ∈ [copy, word], field.name ≠ "" := by decide
  have hfound : ({ fields := [copy, word] } : Definition).problem?
        (Registration.upTo [copy, word] copy) copy ≠
      ({ fields := [copy, word] } : Definition).problem?
        (Registration.upTo [word, copy] copy) copy := by
    decide +kernel
  rcases (sameVerdict_iff plain_copyFirst perm_copyFirst).1.1 hsame with
    ⟨field, hmem, hempty⟩ | hall
  · exact hnamed field hmem hempty
  · exact hfound (hall copy List.mem_cons_self rfl)

theorem not_forall_sameVerdict :
    ¬ ∀ (definition : Definition) (fields : List Registration), definition.Plain →
      fields.Perm definition.fields →
      SameVerdict (results definition) (results { definition with fields }) := by
  intro hall
  have hsame := hall { fields := [copy, word] } [word, copy] plain_copyFirst perm_copyFirst
  have hcode := exitCode_copyFirst.1.symm.trans (hsame.code.trans exitCode_copyFirst.2)
  cases hcode

end Command

end FieldRules
