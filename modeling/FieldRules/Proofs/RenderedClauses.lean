import Mathlib.Tactic.MkIffOfInductiveProp
import FieldRules.Proofs.Cutting
import FieldRules.Rule.Chain

/-!
# Clauses as text

`Clause.render` writes a clause as a text, and `Clause.WellFormed` says when the
text can be read again: no part of the clause may hold a character that ends the
part earlier.

* `splitMessage_render`: the message text of a rendered clause is found.
* `Clause.read_render`: reading undoes rendering.
* `Clause.WellFormed.not_opening`: no pattern starts with a rendered clause.
-/

namespace FieldRules.Rule

open Text Literal

/-! ## Rendering -/

/-- Parameters behind a colon, with commas between them. -/
def renderParams : List String → List Char
  | [] => []
  | param :: params => ':' :: [','].intercalate ((param :: params).map String.toList)

/-- A message text behind its marker. -/
def renderMessage : Option String → List Char
  | none => []
  | some alt => ':' :: altMarker ++ alt.toList

namespace Clause

/-- A clause as a text, without its message text. -/
def head (clause : Clause) : List Char :=
  clause.name.toList ++ renderParams clause.params

/-- A clause as a text. -/
def render (clause : Clause) : List Char :=
  clause.head ++ renderMessage clause.alt

/-- The clause can be read back from its text: no part holds what would end it
earlier, and the name does not start a message text or a pattern. -/
@[mk_iff]
structure WellFormed (clause : Clause) : Prop where
  name_ne : clause.name.toList ≠ []
  name_trimmed : trim clause.name.toList = clause.name.toList
  name_free : '|' ∉ clause.name.toList ∧ ':' ∉ clause.name.toList
  name_opens : ∀ word ∈ altMarker :: modernOpenings, ¬ word <+: clause.name.toList
  name_deprecated : clause.name = "regex" → clause.params = [] ∧ clause.alt = none
  params : ∀ param ∈ clause.params, param.toList ≠ [] ∧ trim param.toList = param.toList ∧
    '|' ∉ param.toList ∧ ',' ∉ param.toList
  marker : ¬ ':' :: altMarker <:+: clause.head
  range : (rangeSyntax clause.name).isSome = true → clause.params.length = 2
  alt : ∀ alt ∈ clause.alt, '|' ∉ alt.toList ∧ NoBlankLast alt.toList

instance (clause : Clause) : Decidable clause.WellFormed :=
  decidable_of_iff' _ (wellFormed_iff clause)

end Clause

variable {clause : Clause} {c : Char}

/-- What follows the name of a clause begins with a colon. -/
theorem eq_colon_of_head? {params : List String} {alt : Option String}
    (h : c ∈ (renderParams params ++ renderMessage alt).head?) : c = ':' := by
  cases params with
  | cons param params =>
    cases h
    rfl
  | nil =>
    cases alt with
    | none => cases h
    | some alt =>
      cases h
      rfl

theorem Clause.render_eq (clause : Clause) :
    clause.render =
      clause.name.toList ++ (renderParams clause.params ++ renderMessage clause.alt) :=
  List.append_assoc _ _ _

/-! ## Reading -/

/-- A word without a colon begins the text of a clause only if it begins its name. -/
theorem Clause.not_prefix_render {word : List Char} (hcolon : ':' ∉ word)
    (hname : ¬ word <+: clause.name.toList) : ¬ word <+: clause.render := by
  rw [render_eq]
  refine fun hbegin => hname (prefix_of_prefix_append ?_ hbegin)
  intro c hc
  rwa [eq_colon_of_head? hc]

theorem Clause.WellFormed.name_no_colon (hclause : clause.WellFormed) :
    ∀ c ∈ clause.name.toList, decide (c = ':') = false := by
  intro c hc
  rw [decide_eq_false_iff_not]
  rintro rfl
  exact hclause.name_free.2 hc

theorem splitMessage_render (hclause : clause.WellFormed) :
    splitMessage clause.render = (clause.head, clause.alt.map String.toList) := by
  have hlead : ¬ altMarker <+: clause.render :=
    Clause.not_prefix_render (by decide) (hclause.name_opens altMarker List.mem_cons_self)
  unfold splitMessage
  rw [dropLead?_eq_none_iff.2 hlead]
  dsimp only
  unfold Clause.render
  cases clause.alt with
  | none =>
    rw [renderMessage, List.append_nil, splitAt?_eq_none_iff.2 hclause.marker]
    rfl
  | some alt =>
    rw [renderMessage, splitAt?_append (by decide) hclause.marker]
    rfl

theorem splitParams_intercalate {params : List String} (hne : params ≠ [])
    (hparams : ∀ param ∈ params, param.toList ≠ [] ∧ trim param.toList = param.toList ∧
      '|' ∉ param.toList ∧ ',' ∉ param.toList) :
    splitParams ([','].intercalate (params.map String.toList)) = params := by
  have hsplit : split ',' ([','].intercalate (params.map String.toList)) =
      params.map String.toList := by
    refine split_intercalate (by simpa using hne) ?_
    exact List.forall_mem_map.2 fun param hmem => (hparams param hmem).2.2.2
  have htrim : (params.map String.toList).map trim = params.map String.toList := by
    rw [List.map_map]
    exact List.map_congr_left fun param hmem => (hparams param hmem).2.1
  have hfilter : (params.map String.toList).filter (!·.isEmpty) = params.map String.toList := by
    rw [List.filter_eq_self, List.forall_mem_map]
    exact fun param hmem => by simpa using (hparams param hmem).1
  unfold splitParams
  rw [hsplit, htrim, hfilter, List.map_map]
  exact List.map_id'' (fun param => String.ofList_toList) params

theorem ofList_toList_message (alt : Option String) :
    (alt.map String.toList).map String.ofList = alt := by
  cases alt with
  | none => rfl
  | some alt => exact congrArg some String.ofList_toList

/-- Reading undoes rendering. -/
theorem Clause.read_render (hclause : clause.WellFormed) : Clause.read clause.render = clause := by
  have hname : String.ofList (trim clause.name.toList) = clause.name := by
    rw [hclause.name_trimmed, String.ofList_toList]
  unfold Clause.read
  rw [splitMessage_render hclause]
  dsimp only
  unfold Clause.head
  cases hparams : clause.params with
  | nil =>
    rw [renderParams, List.append_nil, splitOnce_eq_none hclause.name_no_colon]
    dsimp only
    rw [hname, ofList_toList_message, ← hparams]
  | cons param params =>
    rw [renderParams, ← hparams, splitOnce_append hclause.name_no_colon (by decide)]
    dsimp only
    rw [hname, ofList_toList_message, splitParams_intercalate (by simp [hparams]) hclause.params]

theorem Clause.checkRange_eq_ok (hclause : clause.WellFormed) : clause.checkRange = .ok clause := by
  unfold checkRange
  cases hrange : rangeSyntax clause.name with
  | none => rfl
  | some expected => exact if_pos (hclause.range (by rw [hrange]; rfl))

/-! ## Between bars -/

namespace Clause.WellFormed

theorem trim_render (hclause : clause.WellFormed) : trim clause.render = clause.render := by
  obtain ⟨hfirst, hlast⟩ := trim_eq_self_iff.1 hclause.name_trimmed
  rw [trim_eq_self_iff]
  constructor
  · rw [render_eq]
    obtain ⟨c, rest, hname⟩ := List.exists_cons_of_ne_nil hclause.name_ne
    rw [hname] at hfirst ⊢
    exact hfirst
  · refine noBlankLast_append (noBlankLast_append hlast ?_) ?_
    · cases hparams : clause.params with
      | nil => exact nofun
      | cons param params =>
        rw [renderParams, ← hparams, ← List.singleton_append]
        refine noBlankLast_append (by decide) (noBlankLast_intercalate (by decide) ?_)
        exact List.forall_mem_map.2 fun param hmem =>
          (trim_eq_self_iff.1 (hclause.params param hmem).2.1).2
    · cases halt : clause.alt with
      | none => exact nofun
      | some alt => exact noBlankLast_append (by decide) (hclause.alt alt halt).2

theorem not_mem_render (hclause : clause.WellFormed) : '|' ∉ clause.render := by
  unfold render head
  simp only [List.mem_append, not_or]
  refine ⟨⟨hclause.name_free.1, ?_⟩, ?_⟩
  · cases hparams : clause.params with
    | nil => exact List.not_mem_nil
    | cons param params =>
      rw [renderParams, ← hparams, List.mem_cons, not_or]
      refine ⟨by decide, not_mem_intercalate (by decide) ?_⟩
      exact List.forall_mem_map.2 fun param hmem => (hclause.params param hmem).2.2.1
  · cases halt : clause.alt with
    | none => exact List.not_mem_nil
    | some alt =>
      rw [renderMessage, List.mem_append, not_or]
      exact ⟨by decide, (hclause.alt alt halt).1⟩

/-- The deprecated spelling of a pattern would have to be a clause that is named
`regex` and goes on behind its name. -/
theorem not_deprecated (hclause : clause.WellFormed) :
    ¬ deprecatedOpening <+: clause.render := by
  rintro ⟨after, hafter⟩
  have hregex : splitOnce (· = ':') clause.render = some ("regex".toList, after) := by
    rw [← hafter]
    change splitOnce _ ("regex".toList ++ ':' :: after) = _
    exact splitOnce_append (by simp) (by decide) after
  rw [render_eq] at hregex
  cases hrest : renderParams clause.params ++ renderMessage clause.alt with
  | nil =>
    rw [hrest, List.append_nil, splitOnce_eq_none hclause.name_no_colon] at hregex
    cases hregex
  | cons c rest =>
    have hc : c = ':' := eq_colon_of_head? (by rw [hrest]; rfl)
    rw [hrest, splitOnce_append hclause.name_no_colon (by simpa using hc), Option.some.injEq,
      Prod.mk.injEq] at hregex
    have heq : clause.name = "regex" := String.toList_injective hregex.1
    obtain ⟨hparams, halt⟩ := hclause.name_deprecated heq
    rw [hparams, halt] at hrest
    cases hrest

/-- No pattern starts with a rendered clause. -/
theorem not_opening (hclause : clause.WellFormed) :
    ∀ opening ∈ deprecatedOpening :: modernOpenings, ¬ opening <+: clause.render := by
  have hcolon : ∀ opening ∈ modernOpenings, ':' ∉ opening := by decide
  intro opening hmem
  rcases List.mem_cons.1 hmem with rfl | hmem
  · exact hclause.not_deprecated
  · exact not_prefix_render (hcolon opening hmem)
      (hclause.name_opens opening (List.mem_cons_of_mem _ hmem))

end Clause.WellFormed

end FieldRules.Rule
