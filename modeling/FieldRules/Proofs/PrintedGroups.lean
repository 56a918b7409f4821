import FieldRules.Command
import FieldRules.Proofs.PrettyJson

/-!
# What a check prints tells what it has found

The results of a check are printed as JSON or as lines of text.

* `FormResults.ofJson?`: the results that a JSON value tells of.
* `ofJson?_parse_renderJson`: what is printed as JSON is read back as the results.
* `lines`: a line for each group, with its name and whether it is valid, and behind it one
  line for each of its entries, with the name of the field and the message.
* `consists_renderText`: what is printed as text consists of these lines.
* `split_of_consists`: unless there are line breaks in the names or messages, nothing else
  can be read off the text.
* `prints_render`: either way, the output tells what has been found.
-/

namespace FieldRules

/-! ## Results as JSON -/

theorem SummaryEntry.verbal_toJson (entry : SummaryEntry) : entry.toJson.Verbal := by
  refine .object fun item hmem => ?_
  simp only [List.mem_cons, List.not_mem_nil, or_false] at hmem
  rcases hmem with rfl | rfl | rfl | rfl
  · exact .string entry.field
  · cases entry.form with
    | none => exact .null
    | some form => exact .string form
  · exact .string entry.friendlyName
  · exact .string entry.message

/-- The entry that a JSON value tells of. -/
def SummaryEntry.ofJson? (value : Json) : Option SummaryEntry := do
  return {
    field := ← (value.get? "fieldName").bind Json.string?
    form := ← (value.get? "formName").bind (Json.orNull Json.string?)
    friendlyName := ← (value.get? "friendlyName").bind Json.string?
    message := ← (value.get? "message").bind Json.string? }

theorem SummaryEntry.ofJson?_toJson (entry : SummaryEntry) : ofJson? entry.toJson = some entry := by
  obtain ⟨field, form, friendlyName, message⟩ := entry
  cases form <;> rfl

namespace Command

variable {found : FormResults} {text : String} {texts : List String}

theorem FormResult.verbal_toJson (result : FormResult) : result.toJson.Verbal := by
  refine .object fun item hmem => ?_
  simp only [List.mem_cons, List.not_mem_nil, or_false] at hmem
  rcases hmem with rfl | rfl
  · exact .bool result.valid
  · exact .array (List.forall_mem_map.2 fun entry _ => entry.verbal_toJson)

/-- The result of a form that a JSON value tells of. -/
def FormResult.ofJson? (value : Json) : Option FormResult := do
  return {
    valid := ← (value.get? "valid").bind Json.bool?
    errors := ← match value.get? "errors" with
      | some (.array items) => items.mapM SummaryEntry.ofJson?
      | _ => none }

theorem mapM_map_eq_some {α β : Type} {f : β → Option α} {g : α → β}
    (hinverse : ∀ a, f (g a) = some a) (items : List α) : (items.map g).mapM f = some items := by
  induction items with
  | nil => rfl
  | cons item items ih =>
    rw [List.map_cons, List.mapM_cons, hinverse, ih]
    rfl

theorem FormResult.ofJson?_toJson (result : FormResult) : ofJson? result.toJson = some result := by
  have hvalid : result.toJson.get? "valid" = some (.bool result.valid) := rfl
  have herrors : result.toJson.get? "errors" = some (.array (result.errors.map (·.toJson))) := rfl
  unfold ofJson?
  rw [hvalid, herrors]
  dsimp only
  rw [mapM_map_eq_some SummaryEntry.ofJson?_toJson]
  rfl

/-- The results that a JSON value tells of: for each form, whether it is valid and its
errors. -/
def FormResults.ofJson? : Json → Option FormResults
  | .object entries => entries.mapM fun entry => (FormResult.ofJson? entry.2).map (entry.1, ·)
  | _ => none

/-- What is printed as JSON is read back as the results. -/
theorem ofJson?_parse_renderJson (found : FormResults) :
    (Json.parse? (renderJson found)).bind FormResults.ofJson? = some found := by
  have hverbal : (Json.object (found.map fun group => (group.1, group.2.toJson))).Verbal :=
    .object (List.forall_mem_map.2 fun group _ => group.2.verbal_toJson)
  have hread : Json.parse? (renderJson found) =
      some (.object (found.map fun group => (group.1, group.2.toJson))) :=
    Json.parse?_pretty hverbal (List.forall_mem_singleton.2 rfl)
  rw [hread, Option.bind_some]
  apply mapM_map_eq_some
  intro group
  rw [FormResult.ofJson?_toJson]
  rfl

/-! ## Results as lines -/

/-- The line that names a form and says whether it is valid. -/
def headline (form : String) (valid : Bool) : String :=
  (if form = "" then "(no form)" else form) ++ if valid then ": valid" else ": invalid"

/-- The line that tells of an invalid field. -/
def errorLine (entry : SummaryEntry) : String :=
  "  " ++ entry.friendlyName ++ ": " ++ entry.message

/-- A line for each group, and behind it one for each of its errors. -/
def lines (found : FormResults) : List String :=
  found.flatMap fun group =>
    headline group.1 group.2.valid :: group.2.errors.map errorLine

/-- The text consists of lines, with a line break behind each. -/
def Consists (text : String) (texts : List String) : Prop :=
  text.toList = texts.flatMap fun line => line.toList ++ ['\n']

theorem consists_renderForm (form : String) (result : FormResult) :
    Consists (renderForm form result)
      (headline form result.valid :: result.errors.map errorLine) := by
  have hhead : (renderForm form result).toList = (headline form result.valid).toList ++ ['\n'] ++
      result.errors.flatMap fun entry => (errorLine entry).toList ++ ['\n'] := by
    unfold renderForm headline errorLine
    cases result.valid <;> by_cases hform : form = "" <;>
      simp [hform, List.flatMap_map]
  rw [Consists, hhead, List.flatMap_cons, List.flatMap_map]

/-- What is printed as text consists of the lines. -/
theorem consists_renderText (found : FormResults) : Consists (renderText found) (lines found) := by
  rw [Consists, renderText, lines, String.toList_join, List.flatMap_map, List.flatMap_assoc]
  apply List.flatMap_congr
  intro group _
  exact consists_renderForm group.1 group.2

/-- Lines without line breaks in them are what the text is cut into at its line breaks. -/
theorem split_of_consists (hconsists : Consists text texts)
    (hbreak : ∀ line ∈ texts, '\n' ∉ line.toList) :
    Text.split '\n' text.toList = texts.map (·.toList) ++ [[]] := by
  have hpieces : ∀ piece ∈ texts.map (·.toList) ++ [[]], '\n' ∉ piece := by
    rw [List.forall_mem_append, List.forall_mem_map]
    exact ⟨hbreak, by simp⟩
  have hjoined : ['\n'].intercalate (texts.map (·.toList) ++ [[]]) = text.toList := by
    rw [hconsists, Text.intercalate_append_cons_eq, List.flatMap_map]
    simp
  rw [← hjoined]
  exact Text.split_intercalate (by simp) hpieces

/-! ## Either -/

/-- The output tells what has been found.  As JSON it is read back as the results, and as
text it consists of their lines. -/
def Prints (json : Bool) (output : String) (found : FormResults) : Prop :=
  if json then (Json.parse? output).bind FormResults.ofJson? = some found
  else Consists output (lines found)

theorem prints_render (json : Bool) (found : FormResults) :
    Prints json (if json then renderJson found else renderText found) found := by
  cases json with
  | true => exact ofJson?_parse_renderJson found
  | false => exact consists_renderText found

end Command

end FieldRules
