import FieldRules.Proofs.RenderedPatterns

/-!
# Chains as text

A `Draft` is what a chain is written from: clauses, with a literal pattern
between two of them or without one.  `Draft.render` joins their texts with bars.

* `Draft.parse_render`: parsing undoes rendering.  The scanners for the pattern,
  its end, the bars and the message texts each stop at what was rendered for
  them, and nowhere earlier.
-/

namespace FieldRules.Rule

open Text Literal

variable {text rest : List Char} {texts : List (List Char)}

/-! ## Texts between bars -/

/-- Texts, each with a bar behind it. -/
def ahead (texts : List (List Char)) : List Char :=
  texts.flatMap (· ++ ['|'])

/-- Texts, each with a bar in front of it. -/
def behind (texts : List (List Char)) : List Char :=
  texts.flatMap ('|' :: ·)

theorem eq_bar_of_head?_behind : ∀ c ∈ (behind texts).head?, c = '|' := by
  intro c hc
  cases texts with
  | nil => cases hc
  | cons text texts =>
    cases hc
    rfl

theorem intercalate_cons (text : List Char) (texts : List (List Char)) :
    ['|'].intercalate (text :: texts) = text ++ behind texts :=
  intercalate_cons_eq '|' text texts

theorem intercalate_append_cons (before : List (List Char)) (text : List Char)
    (after : List (List Char)) :
    ['|'].intercalate (before ++ text :: after) = ahead before ++ (text ++ behind after) :=
  intercalate_append_cons_eq '|' before text after

/-- Cutting at the bars undoes joining, for trimmed texts that are not empty. -/
theorem clauseTexts_intercalate
    (htexts : ∀ text ∈ texts, '|' ∉ text ∧ trim text = text ∧ text ≠ []) :
    clauseTexts (['|'].intercalate texts) = texts := by
  unfold clauseTexts
  cases texts with
  | nil => decide +kernel
  | cons first others =>
    rw [split_intercalate (List.cons_ne_nil first others) fun text hmem => (htexts text hmem).1]
    have htrim : (first :: others).map trim = first :: others :=
      (List.map_congr_left fun text hmem => (htexts text hmem).2.1).trans (List.map_id _)
    rw [htrim, List.filter_eq_self]
    intro text hmem
    simpa using (htexts text hmem).2.2

/-! ## Clauses -/

theorem mapM_eq_ok {ε α β : Type} {f : α → Except ε β} {g : α → β} {items : List α}
    (h : ∀ item ∈ items, f item = .ok (g item)) : items.mapM f = .ok (items.map g) := by
  induction items with
  | nil => rfl
  | cons head rest ih =>
    rw [List.mapM_cons, h head List.mem_cons_self,
      ih fun item hmem => h item (List.mem_cons_of_mem head hmem)]
    rfl

/-- Clauses joined with bars are parsed as they are. -/
theorem parseClauses_render {clauses : List Clause} (hclauses : ∀ c ∈ clauses, c.WellFormed) :
    parseClauses (['|'].intercalate (clauses.map Clause.render)) = .ok clauses := by
  have htexts : clauseTexts (['|'].intercalate (clauses.map Clause.render)) =
      clauses.map Clause.render := by
    refine clauseTexts_intercalate (List.forall_mem_map.2 fun clause hmem => ?_)
    have hclause := hclauses clause hmem
    refine ⟨hclause.not_mem_render, hclause.trim_render, ?_⟩
    rw [Clause.render_eq]
    exact List.append_ne_nil_of_left_ne_nil hclause.name_ne _
  unfold parseClauses
  rw [htexts, List.mapM_map]
  have hread : ∀ clause ∈ clauses,
      ((fun text => (Clause.read text).checkRange) ∘ Clause.render) clause = .ok (id clause) := by
    intro clause hmem
    rw [Function.comp_apply, Clause.read_render (hclauses clause hmem)]
    exact Clause.checkRange_eq_ok (hclauses clause hmem)
  rw [mapM_eq_ok hread, List.map_id]

/-! ## Looking for a pattern -/

/-- A text that stands between two bars and starts no pattern. -/
structure Quiet (text : List Char) : Prop where
  free : '|' ∉ text
  begins : ∃ c ∈ text.head?, isBlank c = false
  opens : ∀ word ∈ deprecatedOpening :: modernOpenings, ¬ word <+: text

theorem Clause.WellFormed.quiet {clause : Clause} (hclause : clause.WellFormed) :
    Quiet clause.render := by
  refine ⟨hclause.not_mem_render, ?_, hclause.not_opening⟩
  obtain ⟨c, rest, hname⟩ := List.exists_cons_of_ne_nil hclause.name_ne
  have hfirst := (trim_eq_self_iff.1 hclause.name_trimmed).1
  rw [hname] at hfirst
  rw [Clause.render_eq, hname]
  exact ⟨c, rfl, hfirst c rfl⟩

section Openings

variable {openings : List (List Char)} (hopenings : openings ⊆ deprecatedOpening :: modernOpenings)

/-- The text before a clause in which a pattern was found, with more text before it. -/
def addBefore (text : List Char) (found : List Char × List Char × List Char) :
    List Char × List Char × List Char :=
  (text ++ found.1, found.2)

theorem addBefore_comp (before text : List Char) :
    addBefore before ∘ addBefore text = addBefore (before ++ text) := by
  funext found
  rw [Function.comp_apply, addBefore, addBefore, addBefore, List.append_assoc]

theorem findSome?_eq_none (hnot : ∀ word ∈ openings, ¬ word <+: text) :
    (openings.findSome? fun word =>
      (dropLead? word text).map fun after => (([] : List Char), word, after)) = none := by
  rw [List.findSome?_eq_none_iff]
  intro word hmem
  rw [dropLead?_eq_none_iff.2 (hnot word hmem)]
  rfl

/-- No clause starts within a text without bars. -/
theorem findOpening_inside (hfree : '|' ∉ text) (rest : List Char) :
    findOpening openings false (text ++ rest) =
      (findOpening openings false rest).map (addBefore text) := by
  induction text with
  | nil => exact (Option.map_id' ..).symm
  | cons c text ih =>
    rw [List.mem_cons, not_or] at hfree
    have hstart : startsBehind false c = false := by
      unfold startsBehind
      rw [decide_eq_false (Ne.symm hfree.1), Bool.false_and, Bool.false_or]
    rw [List.cons_append, findOpening]
    dsimp only
    rw [if_neg Bool.false_ne_true, Option.none_or, hstart, ih hfree.2, Option.map_map]
    rfl

include hopenings

/-- A quiet text is passed over, whatever clauses follow. -/
theorem findOpening_quiet (hquiet : Quiet text) (hrest : ∀ c ∈ rest.head?, c = '|') :
    findOpening openings true (text ++ rest) =
      (findOpening openings false rest).map (addBefore text) := by
  obtain ⟨hfree, ⟨c, hc, hblank⟩, hopens⟩ := hquiet
  have hbar : ∀ word ∈ deprecatedOpening :: modernOpenings, '|' ∉ word := by decide
  have hnone : ∀ word ∈ openings, ¬ word <+: text ++ rest := by
    intro word hmem hbegin
    -- an opening has no bar, so it does not reach into the next clause
    refine hopens word (hopenings hmem) (prefix_of_prefix_append ?_ hbegin)
    intro c hc
    rw [hrest c hc]
    exact hbar word (hopenings hmem)
  cases text with
  | nil => cases hc
  | cons first text =>
    cases hc
    rw [List.mem_cons, not_or] at hfree
    have hstart : startsBehind true c = false := by
      unfold startsBehind
      rw [decide_eq_false (Ne.symm hfree.1), hblank, Bool.and_false, Bool.false_or]
    rw [List.cons_append] at hnone ⊢
    rw [findOpening, if_pos rfl, findSome?_eq_none hnone, Option.none_or, hstart,
      findOpening_inside hfree.2, Option.map_map]
    rfl

/-- A clause starts behind a bar. -/
theorem findOpening_bar (atStart : Bool) (rest : List Char) :
    findOpening openings atStart ('|' :: rest) =
      (findOpening openings true rest).map (addBefore ['|']) := by
  have hbar : ∀ word ∈ deprecatedOpening :: modernOpenings, word.head? ≠ some '|' ∧ word ≠ [] := by
    decide
  have hnone : ∀ word ∈ openings, ¬ word <+: '|' :: rest := by
    intro word hmem hbegin
    obtain ⟨hhead, hne⟩ := hbar word (hopenings hmem)
    obtain ⟨c, word, rfl⟩ := List.exists_cons_of_ne_nil hne
    rw [List.cons_prefix_cons] at hbegin
    exact hhead (congrArg some hbegin.1)
  rw [findOpening]
  cases atStart with
  | false => rfl
  | true =>
    rw [if_pos rfl, findSome?_eq_none hnone]
    rfl

theorem findOpening_behind (htexts : ∀ text ∈ texts, Quiet text) (atStart : Bool) :
    findOpening openings atStart (behind texts) = none := by
  induction texts generalizing atStart with
  | nil => rfl
  | cons text texts ih =>
    rw [behind, List.flatMap_cons, List.cons_append, findOpening_bar hopenings, ← behind,
      findOpening_quiet hopenings (htexts text List.mem_cons_self) eq_bar_of_head?_behind,
      ih fun text hmem => htexts text (List.mem_cons_of_mem _ hmem)]
    rfl

/-- No pattern is found among quiet texts. -/
theorem findOpening_intercalate (htexts : ∀ text ∈ texts, Quiet text) :
    findOpening openings true (['|'].intercalate texts) = none := by
  cases texts with
  | nil => rfl
  | cons text texts =>
    rw [intercalate_cons,
      findOpening_quiet hopenings (htexts text List.mem_cons_self) eq_bar_of_head?_behind,
      findOpening_behind hopenings fun text hmem => htexts text (List.mem_cons_of_mem _ hmem)]
    rfl

/-- Quiet texts are passed over up to the pattern behind them. -/
theorem findOpening_ahead (htexts : ∀ text ∈ texts, Quiet text) (rest : List Char) :
    findOpening openings true (ahead texts ++ rest) =
      (findOpening openings true rest).map (addBefore (ahead texts)) := by
  induction texts with
  | nil => exact (Option.map_id' ..).symm
  | cons text texts ih =>
    have hbar : ∀ c ∈ ('|' :: (ahead texts ++ rest)).head?, c = '|' := by
      rintro c ⟨⟩
      rfl
    rw [ahead, List.flatMap_cons, ← ahead, List.append_assoc, List.append_assoc,
      List.singleton_append, findOpening_quiet hopenings (htexts text List.mem_cons_self) hbar,
      findOpening_bar hopenings, ih fun text hmem => htexts text (List.mem_cons_of_mem _ hmem),
      Option.map_map, Option.map_map, addBefore_comp, addBefore_comp]

end Openings

/-! ## Lifting the pattern out -/

/-- No pattern is lifted out of clauses. -/
theorem extract_intercalate (htexts : ∀ text ∈ texts, Quiet text) :
    extract (['|'].intercalate texts) = .ok (['|'].intercalate texts, none) := by
  unfold extract find?
  rw [findOpening_intercalate (by decide) htexts]
  dsimp only
  rw [findOpening_intercalate (by decide) htexts]

/-- A pattern starts where its opening stands, since no opening begins with another one. -/
theorem findOpening_of_mem {openings : List (List Char)} {opening : List Char}
    (hopenings : openings ⊆ deprecatedOpening :: modernOpenings) (hmem : opening ∈ openings)
    (rest : List Char) :
    findOpening openings true (opening ++ rest) = some ([], opening, rest) := by
  have hapart : ∀ word ∈ deprecatedOpening :: modernOpenings,
      ∀ other ∈ deprecatedOpening :: modernOpenings, word <+: other → word = other := by
    decide
  have hlead : openings.findSome? (fun word =>
      (dropLead? word (opening ++ rest)).map fun after => (([] : List Char), word, after)) =
        some ([], opening, rest) := by
    cases hfound : openings.findSome? (fun word =>
        (dropLead? word (opening ++ rest)).map fun after => (([] : List Char), word, after)) with
    | none =>
      have hnone := List.findSome?_eq_none_iff.1 hfound opening hmem
      rw [dropLead?_append] at hnone
      cases hnone
    | some found =>
      obtain ⟨word, hword, hhere⟩ := List.exists_of_findSome?_eq_some hfound
      obtain ⟨after, hafter, rfl⟩ := Option.map_eq_some_iff.1 hhere
      have htext : opening ++ rest = word ++ after := dropLead?_eq_some_iff.1 hafter
      have hsame : word = opening := by
        rcases List.append_eq_append_iff.1 htext with ⟨tail, rfl, -⟩ | ⟨tail, rfl, -⟩
        · exact (hapart _ (hopenings hmem) _ (hopenings hword) (List.prefix_append _ _)).symm
        · exact hapart _ (hopenings hword) _ (hopenings hmem) (List.prefix_append _ _)
      subst hsame
      rw [List.append_cancel_left htext]
  have hne : ∀ word ∈ deprecatedOpening :: modernOpenings, word ≠ [] := by decide
  obtain ⟨c, word, rfl⟩ := List.exists_cons_of_ne_nil (hne opening (hopenings hmem))
  rw [List.cons_append] at hlead ⊢
  rw [findOpening, if_pos rfl, hlead, Option.some_or]

/-- A pattern between clauses is lifted out, and leaves its keyword behind. -/
theorem extract_append {before after : List (List Char)} {literal : LiteralPattern}
    (hbefore : ∀ text ∈ before, Quiet text) (hliteral : literal.WellFormed)
    (hafter : ∀ text ∈ after, Quiet text) :
    extract (['|'].intercalate (before ++ literal.render :: after)) =
      .ok (['|'].intercalate (before ++ placeholder :: after), some literal) := by
  have hfind : find? (['|'].intercalate (before ++ literal.render :: after)) =
      .ok (some (ahead before, literal, behind after)) := by
    unfold find?
    rw [intercalate_append_cons, findOpening_ahead (by decide) hbefore, LiteralPattern.render,
      List.append_assoc, findOpening_of_mem (by decide) (by decide)]
    dsimp only [Option.map_some, addBefore]
    rw [readModern_render hliteral eq_bar_of_head?_behind, List.append_nil]
    rfl
  have hsecond : hasLiteral (behind after) = false := by
    unfold hasLiteral
    rw [findOpening_behind (List.Subset.refl _) hafter]
    rfl
  unfold extract
  rw [hfind]
  dsimp only
  rw [hsecond, if_neg Bool.false_ne_true, intercalate_append_cons, List.append_assoc]

/-! ## Drafts -/

/-- The clause that stands for a pattern. -/
def patternClause : Clause :=
  ⟨"pattern", [], none⟩

/-- What a chain is written from: clauses, with a pattern among them or without one. -/
structure Draft where
  before : List Clause
  literal : Option LiteralPattern
  after : List Clause

namespace Draft

/-- The chain as a text: the clauses and the pattern in order, joined with bars. -/
def render (draft : Draft) : String :=
  String.ofList <| ['|'].intercalate <|
    draft.before.map Clause.render ++
      ((draft.literal.map LiteralPattern.render).toList ++ draft.after.map Clause.render)

/-- The clauses in order, with the bare keyword for the pattern. -/
def clauses (draft : Draft) : List Clause :=
  draft.before ++ ((draft.literal.map fun _ => patternClause).toList ++ draft.after)

/-- The chain that the draft stands for. -/
def chain (draft : Draft) : Chain where
  clauses := draft.clauses
  literal := draft.literal
  required := draft.clauses.any (·.name == requiredKeyword)

/-- Every part of the draft can be read back from its text. -/
@[mk_iff]
structure WellFormed (draft : Draft) : Prop where
  clauses : ∀ clause ∈ draft.before ++ draft.after, clause.WellFormed
  literal : ∀ literal ∈ draft.literal, literal.WellFormed

instance (draft : Draft) : Decidable draft.WellFormed :=
  decidable_of_iff' _ (wellFormed_iff draft)

theorem wellFormed_patternClause : patternClause.WellFormed := by
  decide +kernel

theorem quiet_of_mem_map {clauses : List Clause}
    (hclauses : ∀ clause ∈ clauses, clause.WellFormed) :
    ∀ text ∈ clauses.map Clause.render, Quiet text :=
  List.forall_mem_map.2 fun clause hmem => (hclauses clause hmem).quiet

/-- The pattern of a draft is lifted out, and nothing else is. -/
theorem extract_render {draft : Draft} (hdraft : draft.WellFormed) :
    extract draft.render.toList =
      .ok (['|'].intercalate (draft.clauses.map Clause.render), draft.literal) := by
  obtain ⟨before, literal, after⟩ := draft
  obtain ⟨hclauses, hliteral⟩ := hdraft
  have hquiet := quiet_of_mem_map hclauses
  rw [render, String.toList_ofList]
  cases literal with
  | none =>
    dsimp only [clauses, Option.map_none, Option.toList_none, List.nil_append]
    rw [← List.map_append, extract_intercalate hquiet]
  | some literal =>
    rw [List.map_append] at hquiet
    have hpattern : patternClause.render = placeholder := by decide
    dsimp only [clauses, Option.map_some, Option.toList_some, List.cons_append, List.nil_append]
    rw [List.map_append, List.map_cons, hpattern]
    exact extract_append (fun text hmem => hquiet text (List.mem_append_left _ hmem))
      (hliteral literal rfl) fun text hmem => hquiet text (List.mem_append_right _ hmem)

theorem WellFormed.of_mem_clauses {draft : Draft} (hdraft : draft.WellFormed) :
    ∀ clause ∈ draft.clauses, clause.WellFormed := by
  intro clause hmem
  rw [Draft.clauses, List.mem_append, List.mem_append] at hmem
  rcases hmem with hmem | hmem | hmem
  · exact hdraft.clauses clause (List.mem_append_left _ hmem)
  · obtain ⟨literal, -, rfl⟩ := Option.map_eq_some_iff.1 (Option.mem_toList.1 hmem)
    exact wellFormed_patternClause
  · exact hdraft.clauses clause (List.mem_append_right _ hmem)

/-- Parsing undoes rendering. -/
theorem parse_render {draft : Draft} (hdraft : draft.WellFormed) :
    Chain.parse draft.render = .ok draft.chain := by
  unfold Chain.parse
  rw [extract_render hdraft]
  dsimp only
  rw [parseClauses_render hdraft.of_mem_clauses]
  rfl

/-- A draft whose parts are full of separators: bars, slashes and openings in the
pattern, and markers and openings in the message texts. -/
def separators : Draft where
  before :=
    [⟨"required", [], none⟩, ⟨"between", ["-1.5", "1e3"], some " a, b:alt=c"⟩,
      ⟨"date_iso_min", ["2024-01-01 10:30"], none⟩]
  literal := some ⟨"/a|regex=/:alt/g:al(b|c)", "gi", some "not a:b,c regex=/ "⟩
  after := [⟨"regex", [], none⟩, ⟨"alpha", [], some "pattern=/x/ or regex:y"⟩]

theorem parse_render_separators :
    separators.render =
        "required|between:-1.5,1e3:alt= a, b:alt=c|date_iso_min:2024-01-01 10:30" ++
          "|pattern=//a|regex=/:alt/g:al(b|c)/gi:alt=not a:b,c regex=/ |regex" ++
            "|alpha:alt=pattern=/x/ or regex:y" ∧
      separators.WellFormed ∧ Chain.parse separators.render = .ok separators.chain := by
  have hwellFormed : separators.WellFormed := by decide +kernel
  exact ⟨by decide +kernel, hwellFormed, parse_render hwellFormed⟩

end Draft

end FieldRules.Rule
