import FieldRules.Proofs.SpacedChains

/-!
# Chains with several patterns

A chain may have only one pattern.  The modern spelling is looked for first, wherever it
stands, and another pattern only behind the one that was found.  So a second pattern is
noticed unless the only one in the modern spelling comes last: then those before it, which
have the deprecated spelling, are left in the chain as clauses.

* `WrittenClause`, `chainText`: clauses in either spelling of a pattern, and plain ones.
* `findOpening_intercalate_eq_none_iff`: an opening is found in a chain if it is found in
  one of the clauses.
* `find?_chainText`: the pattern that is found is the first one in the modern spelling, or
  the first of all if none has it.
* `extract_chainText`: the chain is refused if another pattern stands behind it.
* `parse_eq_second_iff`: the chains with several patterns that are refused.
* `not_forall_parse_eq_second`: one that is not.
-/

namespace FieldRules.Rule

open Text Literal

/-! ## Clauses as they are written -/

/-- The two ways of writing a pattern. -/
inductive Spelling where
  | modern
  | deprecated
  deriving DecidableEq, Repr

/-- A clause of a chain: one without a pattern, a pattern behind an opening of the modern
spelling, or a message text and a pattern in the deprecated one. -/
inductive WrittenClause where
  | plain (text : String)
  | modern (opening : List Char) (literal : LiteralPattern)
  | deprecated (message source : String)
  deriving DecidableEq, Repr

namespace WrittenClause

/-- The spelling of the pattern, if the clause is one. -/
def spelling? : WrittenClause → Option Spelling
  | plain _ => none
  | modern .. => some .modern
  | deprecated .. => some .deprecated

/-- The clause as a text. -/
def text : WrittenClause → List Char
  | plain text => text.toList
  | modern opening literal => opening ++ literal.body
  | deprecated message source =>
    deprecatedOpening ++
      (message.toList ++ (":=".toList ++ (source.toList ++ ":regex".toList)))

/-- No pattern starts in a plain clause, and a pattern holds nothing that ends it earlier. -/
def WellFormed : WrittenClause → Prop
  | plain text => PlainClause text
  | modern opening literal =>
    opening ∈ modernOpenings ∧ literal.source.toList ≠ [] ∧ '/' ∉ literal.source.toList ∧
      literal.flags.toList ⊆ flagLetters ∧ ∀ alt ∈ literal.alt, '|' ∉ alt.toList
  | deprecated message source =>
    ':' ∉ message.toList ∧ '|' ∉ message.toList ∧ ':' ∉ source.toList ∧ '|' ∉ source.toList ∧
      source.toList ≠ []

instance (clause : WrittenClause) : Decidable clause.WellFormed :=
  match clause with
  | plain text => inferInstanceAs (Decidable (hasLiteral text.toList = false))
  | modern .. => inferInstanceAs (Decidable (_ ∧ _))
  | deprecated .. => inferInstanceAs (Decidable (_ ∧ _))

end WrittenClause

/-- The clauses with bars between them. -/
def chainText (clauses : List WrittenClause) : String :=
  String.ofList (['|'].intercalate (clauses.map (·.text)))

/-- How the patterns of a chain are spelled, in order. -/
def spellings (clauses : List WrittenClause) : List Spelling :=
  clauses.filterMap (·.spelling?)

/-- Of the patterns, the last one has the modern spelling and no other one does. -/
def OnlyLastModern (clauses : List WrittenClause) : Prop :=
  (spellings clauses).getLast? = some .modern ∧ .modern ∉ (spellings clauses).dropLast

instance (clauses : List WrittenClause) : Decidable (OnlyLastModern clauses) :=
  inferInstanceAs (Decidable (_ ∧ _))

variable {message source rest : List Char} {openings : List (List Char)}
  {texts : List (List Char)} {clause : WrittenClause} {before after clauses : List WrittenClause}

/-! ## Looking for an opening -/

/-- An opening that stands in no clause is not found in the chain, and the other way round. -/
theorem findOpening_intercalate_eq_none_iff
    (hopenings : openings ⊆ deprecatedOpening :: modernOpenings) :
    findOpening openings true (['|'].intercalate texts) = none ↔
      ∀ text ∈ texts, findOpening openings true text = none := by
  induction texts with
  | nil => exact iff_of_true rfl (List.forall_mem_nil _)
  | cons text texts ih =>
    cases texts with
    | nil => rw [List.intercalate_singleton, List.forall_mem_singleton]
    | cons next texts =>
      rw [List.intercalate_cons_cons, List.append_assoc, List.singleton_append,
        findOpening_append_bar hopenings, Option.or_eq_none_iff, Option.map_eq_none_iff,
        Option.map_eq_none_iff, ih]
      simp only [List.forall_mem_cons]

theorem findOpening_ahead_eq_none (hopenings : openings ⊆ deprecatedOpening :: modernOpenings)
    (htexts : ∀ text ∈ texts, findOpening openings true text = none) :
    findOpening openings true (ahead texts) = none := by
  have hahead := intercalate_append_cons texts [] []
  rw [behind, List.flatMap_nil, List.append_nil, List.append_nil] at hahead
  rw [← hahead, findOpening_intercalate_eq_none_iff hopenings, List.forall_mem_append,
    List.forall_mem_singleton]
  exact ⟨htexts, rfl⟩

theorem hasLiteral_behind : hasLiteral (behind texts) = false ↔
    ∀ text ∈ texts, hasLiteral text = false := by
  have hbehind := intercalate_cons [] texts
  rw [List.nil_append] at hbehind
  unfold hasLiteral
  simp only [Option.isSome_eq_false_iff, Option.isNone_iff_eq_none]
  rw [← hbehind, findOpening_intercalate_eq_none_iff (List.Subset.refl _), List.forall_mem_cons]
  exact and_iff_right rfl

/-! ## Patterns that are read back -/

theorem splitClosing_append (hsource : ':' ∉ source) :
    splitClosing (source ++ ":regex".toList) = some (source, []) := by
  induction source with
  | nil => decide
  | cons c source ih =>
    rw [List.mem_cons, not_or] at hsource
    have hlead : dropLead? ":regex".toList (c :: (source ++ ":regex".toList)) = none :=
      if_neg hsource.1
    rw [List.cons_append, splitClosing, hlead]
    dsimp only
    rw [ih hsource.2]
    rfl

/-- A pattern in the deprecated spelling is read. -/
theorem exists_readDeprecated (hmessage : ':' ∉ message) (hsource : ':' ∉ source)
    (hne : source ≠ []) (hrest : BeginsWithBar rest) :
    ∃ literal, readDeprecated
      (message ++ (":=".toList ++ (source ++ ":regex".toList)) ++ rest) = .ok (literal, rest) := by
  have hassign : splitAt? ":=".toList (message ++ (":=".toList ++ (source ++ ":regex".toList))) =
      some (message, source ++ ":regex".toList) := by
    refine splitAt?_append (by decide) (fun hinfix => hmessage ?_) _
    exact hinfix.subset List.mem_cons_self
  have hread : ∃ literal, readDeprecated
      (message ++ (":=".toList ++ (source ++ ":regex".toList))) = .ok (literal, []) := by
    unfold readDeprecated
    rw [hassign]
    dsimp only
    rw [splitClosing_append hsource]
    dsimp only
    rw [if_neg (by simpa using hne)]
    exact ⟨_, rfl⟩
  obtain ⟨literal, hread⟩ := hread
  refine ⟨literal, ?_⟩
  rcases hrest.eq_nil_or_cons with rfl | ⟨back, rfl⟩
  · rwa [List.append_nil]
  · exact readDeprecated_append_bar back hread

namespace WrittenClause

/-- A pattern without slashes in it is read back. -/
theorem WellFormed.literal {opening : List Char} {literal : LiteralPattern}
    (hclause : (modern opening literal).WellFormed) : literal.WellFormed := by
  obtain ⟨-, hsource, hslash, hflags, halt⟩ := hclause
  refine ⟨hsource, fun front back heq _ => absurd ?_ hslash, hflags, halt⟩
  rw [heq]
  exact List.mem_append_cons_self

/-- An opening of the modern spelling stands in the patterns of this spelling only. -/
theorem WellFormed.findOpening_modern_eq_none_iff (hclause : clause.WellFormed) :
    findOpening modernOpenings true clause.text = none ↔ clause.spelling? ≠ some .modern := by
  cases clause with
  | plain text => exact iff_of_true (hasLiteral_eq_false_iff.1 hclause).1 nofun
  | modern opening literal =>
    refine iff_of_false ?_ (fun hne => hne rfl)
    rw [text, findOpening_of_mem (by decide) hclause.1]
    exact nofun
  | deprecated message source =>
    refine iff_of_true ?_ nofun
    obtain ⟨-, hmessage, -, hsource, -⟩ := hclause
    -- the text behind its first letter has no bar, so no other clause starts in it
    have hinside : '|' ∉ "egex:".toList ++
        (message.toList ++ (":=".toList ++ (source.toList ++ ":regex".toList))) := by
      simp [hmessage, hsource]
    have hopening : deprecatedOpening = 'r' :: "egex:".toList := by decide
    have hstart : startsBehind true 'r' = false := by decide +kernel
    have hnone : findOpening modernOpenings false (_ ++ []) = _ := findOpening_inside hinside []
    rw [List.append_nil] at hnone
    rw [text, hopening, List.cons_append, findOpening, hstart, hnone]
    rfl

/-- A clause is plain if no pattern starts in it. -/
theorem WellFormed.hasLiteral_eq_false_iff (hclause : clause.WellFormed) :
    hasLiteral clause.text = false ↔ clause.spelling? = none := by
  rw [Literal.hasLiteral_eq_false_iff, hclause.findOpening_modern_eq_none_iff]
  cases clause with
  | plain text => exact iff_of_true ⟨nofun, (Literal.hasLiteral_eq_false_iff.1 hclause).2⟩ rfl
  | modern opening literal => exact iff_of_false (fun hnone => hnone.1 rfl) nofun
  | deprecated message source =>
    refine iff_of_false (fun hnone => ?_) nofun
    rw [text, findOpening_of_mem (by decide) List.mem_cons_self] at hnone
    cases hnone.2

end WrittenClause

/-! ## The pattern that is found -/

/-- The pattern between the clauses is the one that is found: the first one in the modern
spelling, or the first of all if none has it. -/
def IsFound (before : List WrittenClause) (clause : WrittenClause) (after : List WrittenClause) :
    Prop :=
  clause.spelling? = some .modern ∧ (∀ other ∈ before, other.spelling? ≠ some .modern) ∨
    clause.spelling? = some .deprecated ∧ (∀ other ∈ before, other.spelling? = none) ∧
      ∀ other ∈ after, other.spelling? ≠ some .modern

/-- Of several clauses with a pattern, one is found. -/
theorem exists_isFound (hne : spellings clauses ≠ []) :
    ∃ before clause after, clauses = before ++ clause :: after ∧ IsFound before clause after := by
  cases hmodern : clauses.find? (·.spelling? = some .modern) with
  | some clause =>
    obtain ⟨hclause, before, after, hclauses, hbefore⟩ := List.find?_eq_some_iff_append.1 hmodern
    exact ⟨before, clause, after, hclauses, .inl ⟨by simpa using hclause, by simpa using hbefore⟩⟩
  | none =>
    have hnone : ∀ clause ∈ clauses, clause.spelling? ≠ some .modern := by
      simpa using List.find?_eq_none.1 hmodern
    obtain ⟨spelling, hmem⟩ := List.exists_mem_of_ne_nil _ hne
    obtain ⟨other, hother, hspelling⟩ := List.mem_filterMap.1 hmem
    cases hfirst : clauses.find? (·.spelling?.isSome) with
    | none =>
      have hother := List.find?_eq_none.1 hfirst other hother
      rw [hspelling] at hother
      exact absurd rfl hother
    | some clause =>
      obtain ⟨hclause, before, after, rfl, hbefore⟩ := List.find?_eq_some_iff_append.1 hfirst
      refine ⟨before, clause, after, rfl, .inr ⟨?_, by simpa using hbefore, ?_⟩⟩
      · obtain ⟨spelling, hspelling⟩ := Option.isSome_iff_exists.1 hclause
        have hnot := hnone clause List.mem_append_cons_self
        rw [hspelling] at hnot ⊢
        cases spelling with
        | modern => exact absurd rfl hnot
        | deprecated => rfl
      · exact fun other hmem =>
          hnone other (List.mem_append_right before (List.mem_cons_of_mem clause hmem))

theorem toList_chainText (before : List WrittenClause) (clause : WrittenClause)
    (after : List WrittenClause) :
    (chainText (before ++ clause :: after)).toList =
      ahead (before.map (·.text)) ++ (clause.text ++ behind (after.map (·.text))) := by
  rw [chainText, String.toList_ofList, List.map_append, List.map_cons, intercalate_append_cons]

/-- A pattern in the modern spelling is found if none comes before it, even one in the
deprecated spelling. -/
theorem find?_chainText_modern {opening : List Char} {literal : LiteralPattern}
    (hclause : (WrittenClause.modern opening literal).WellFormed)
    (hbefore : ∀ other ∈ before, other.WellFormed ∧ other.spelling? ≠ some .modern)
    (after : List WrittenClause) :
    find? (chainText (before ++ .modern opening literal :: after)).toList =
      .ok (some (ahead (before.map (·.text)), literal, behind (after.map (·.text)))) := by
  have hmodern : modernOpenings ⊆ deprecatedOpening :: modernOpenings := by decide
  have hahead : findOpening modernOpenings true (ahead (before.map (·.text))) = none :=
    findOpening_ahead_eq_none hmodern <| List.forall_mem_map.2 fun other hmem =>
      (hbefore other hmem).1.findOpening_modern_eq_none_iff.2 (hbefore other hmem).2
  have hread : readModern opening (literal.body ++ behind (after.map (·.text))) =
      .ok (literal, behind (after.map (·.text))) :=
    readModern_eq_ok_iff.2 ⟨hclause.literal, rfl, eq_bar_of_head?_behind⟩
  unfold find?
  rw [toList_chainText, findOpening_lead hmodern (endsWithBar_ahead _), hahead, WrittenClause.text,
    List.append_assoc opening, findOpening_of_mem hmodern hclause.1]
  dsimp only [Option.map_some, Option.map_none, Option.none_or, addBefore]
  rw [hread, List.append_nil]
  rfl

/-- A pattern in the deprecated spelling is found if none comes before it and none at all has
the modern spelling. -/
theorem find?_chainText_deprecated {message source : String}
    (hclauses : ∀ other ∈ before ++ .deprecated message source :: after,
      other.WellFormed ∧ other.spelling? ≠ some .modern)
    (hbefore : ∀ other ∈ before, other.spelling? = none) :
    ∃ literal, find? (chainText (before ++ .deprecated message source :: after)).toList =
      .ok (some (ahead (before.map (·.text)), literal, behind (after.map (·.text)))) := by
  have hdeprecated : [deprecatedOpening] ⊆ deprecatedOpening :: modernOpenings := by decide
  have hnone : findOpening modernOpenings true
      (chainText (before ++ .deprecated message source :: after)).toList = none := by
    rw [chainText, String.toList_ofList, findOpening_intercalate_eq_none_iff (by decide),
      List.forall_mem_map]
    exact fun other hmem =>
      (hclauses other hmem).1.findOpening_modern_eq_none_iff.2 (hclauses other hmem).2
  have hahead : findOpening [deprecatedOpening] true (ahead (before.map (·.text))) = none := by
    refine findOpening_ahead_eq_none hdeprecated (List.forall_mem_map.2 fun other hmem => ?_)
    have hother := (hclauses other (List.mem_append_left _ hmem)).1
    exact (hasLiteral_eq_false_iff.1 (hother.hasLiteral_eq_false_iff.2 (hbefore other hmem))).2
  obtain ⟨hmessage, -, hsource, -, hne⟩ := (hclauses _ List.mem_append_cons_self).1
  have hbegins : BeginsWithBar (behind (after.map (·.text))) := eq_bar_of_head?_behind
  obtain ⟨literal, hread⟩ := exists_readDeprecated hmessage hsource hne hbegins
  refine ⟨literal, ?_⟩
  rw [toList_chainText] at hnone ⊢
  unfold find?
  rw [hnone, findOpening_lead hdeprecated (endsWithBar_ahead _), hahead, WrittenClause.text,
    List.append_assoc deprecatedOpening, findOpening_of_mem hdeprecated List.mem_cons_self]
  dsimp only [Option.map_some, Option.map_none, Option.none_or, addBefore]
  rw [hread, List.append_nil]
  rfl

/-- The pattern is looked for in the order of `IsFound`. -/
theorem find?_chainText (hclauses : ∀ other ∈ before ++ clause :: after, other.WellFormed)
    (hfound : IsFound before clause after) :
    ∃ literal, find? (chainText (before ++ clause :: after)).toList =
      .ok (some (ahead (before.map (·.text)), literal, behind (after.map (·.text)))) := by
  rcases hfound with ⟨hspelling, hbefore⟩ | ⟨hspelling, hbefore, hafter⟩
  · cases clause with
    | plain | deprecated => cases hspelling
    | modern opening literal =>
      have hbefore : ∀ other ∈ before, other.WellFormed ∧ other.spelling? ≠ some .modern :=
        fun other hmem => ⟨hclauses other (List.mem_append_left _ hmem), hbefore other hmem⟩
      have hclause := hclauses _ List.mem_append_cons_self
      exact ⟨literal, find?_chainText_modern hclause hbefore after⟩
  · cases clause with
    | plain | modern => cases hspelling
    | deprecated message source =>
      refine find?_chainText_deprecated (fun other hmem => ⟨hclauses other hmem, ?_⟩) hbefore
      rw [List.mem_append, List.mem_cons] at hmem
      rcases hmem with hmem | rfl | hmem
      · rw [hbefore other hmem]
        exact nofun
      · exact nofun
      · exact hafter other hmem

/-- A pattern behind the one that is found is refused. -/
theorem extract_chainText (hclauses : ∀ other ∈ before ++ clause :: after, other.WellFormed)
    (hfound : IsFound before clause after) :
    ∃ literal, extract (chainText (before ++ clause :: after)).toList =
      if spellings after = [] then
        .ok (ahead (before.map (·.text)) ++ placeholder ++ behind (after.map (·.text)),
          some literal)
      else .error .second := by
  obtain ⟨literal, hfind⟩ := find?_chainText hclauses hfound
  have hsecond : hasLiteral (behind (after.map (·.text))) = false ↔ spellings after = [] := by
    rw [hasLiteral_behind, List.forall_mem_map, spellings, List.filterMap_eq_nil_iff]
    refine forall₂_congr fun other hmem => ?_
    have hother := hclauses other (List.mem_append_right before (List.mem_cons_of_mem clause hmem))
    exact hother.hasLiteral_eq_false_iff
  refine ⟨literal, ?_⟩
  unfold extract
  rw [hfind]
  dsimp only
  by_cases hnone : spellings after = []
  · rw [if_pos hnone, hsecond.2 hnone, if_neg Bool.false_ne_true]
  · rw [if_neg hnone, if_pos (by simpa using mt hsecond.1 hnone)]

/-! ## Chains that are refused -/

/-- Clauses are refused for their bounds only. -/
theorem parseClauses_ne_malformedLiteral {text : List Char} {fault : LiteralFault} :
    parseClauses text ≠ .error (.malformedLiteral fault) := by
  intro h
  obtain ⟨text, -, hcheck⟩ := exists_of_mapM_eq_error h
  unfold Clause.checkRange at hcheck
  split at hcheck
  · split at hcheck <;> cases hcheck
  · cases hcheck

theorem Chain.parse_eq_malformedLiteral_iff {rules : String} {fault : LiteralFault} :
    Chain.parse rules = .error (.malformedLiteral fault) ↔ extract rules.toList = .error fault := by
  unfold Chain.parse
  cases extract rules.toList with
  | error other => simp
  | ok found =>
    refine iff_of_false (fun h => ?_) nofun
    rcases bind_eq_error h with hclauses | ⟨clauses, -, h⟩
    · exact parseClauses_ne_malformedLiteral hclauses
    · cases h

/-- Among several patterns, the one that is found is the last if and only if it is the only
one in the modern spelling. -/
theorem onlyLastModern_iff (hfound : IsFound before clause after)
    (hseveral : 2 ≤ (spellings (before ++ clause :: after)).length) :
    OnlyLastModern (before ++ clause :: after) ↔ spellings after = [] := by
  unfold OnlyLastModern
  rcases hfound with ⟨hspelling, hbefore⟩ | ⟨hspelling, hbefore, hafter⟩
  · have hsplit : spellings (before ++ clause :: after) =
        spellings before ++ .modern :: spellings after := by
      rw [spellings, List.filterMap_append, List.filterMap_cons, hspelling]
      rfl
    have hnone : .modern ∉ spellings before := by
      intro hmem
      obtain ⟨other, hother, hmodern⟩ := List.mem_filterMap.1 hmem
      exact hbefore other hother hmodern
    rw [hsplit]
    constructor
    · rintro ⟨-, hlast⟩
      by_contra hne
      rw [List.dropLast_append_cons, List.dropLast_cons_of_ne_nil hne] at hlast
      exact hlast List.mem_append_cons_self
    · intro hlast
      rw [hlast, List.getLast?_concat, List.dropLast_concat]
      exact ⟨rfl, hnone⟩
  · have hnone : spellings before = [] := List.filterMap_eq_nil_iff.2 hbefore
    have hsplit : spellings (before ++ clause :: after) = .deprecated :: spellings after := by
      rw [spellings, List.filterMap_append, ← spellings, hnone, List.filterMap_cons, hspelling]
      rfl
    rw [hsplit] at hseveral ⊢
    refine iff_of_false ?_ (fun hempty => ?_)
    · rintro ⟨hlast, -⟩
      rcases List.mem_cons.1 (List.mem_of_getLast? hlast) with hmem | hmem
      · cases hmem
      · obtain ⟨other, hother, hmodern⟩ := List.mem_filterMap.1 hmem
        exact hafter other hother hmodern
    · rw [hempty] at hseveral
      exact absurd hseveral (by decide)

/-- A chain with several patterns is refused because of the second one, unless the last of
them has the modern spelling and no other one does.  There is no other fault in its patterns,
and in this case none at all. -/
theorem parse_eq_second_iff {clauses : List WrittenClause}
    (hclauses : ∀ clause ∈ clauses, clause.WellFormed) (hseveral : 2 ≤ (spellings clauses).length)
    (fault : LiteralFault) :
    Chain.parse (chainText clauses) = .error (.malformedLiteral fault) ↔
      fault = .second ∧ ¬ OnlyLastModern clauses := by
  have hne : spellings clauses ≠ [] := by
    intro hnil
    rw [hnil] at hseveral
    exact absurd hseveral (by decide)
  obtain ⟨before, clause, after, rfl, hfound⟩ := exists_isFound hne
  obtain ⟨literal, hextract⟩ := extract_chainText hclauses hfound
  rw [Chain.parse_eq_malformedLiteral_iff, hextract, onlyLastModern_iff hfound hseveral]
  by_cases hlast : spellings after = []
  · rw [if_pos hlast]
    exact iff_of_false nofun fun hsecond => hsecond.2 hlast
  · rw [if_neg hlast, Except.error.injEq, and_iff_left hlast, eq_comm]

/-- Patterns in both spellings between plain clauses, with another one behind the first in
the modern spelling. -/
theorem parse_eq_second_mixed :
    Chain.parse "required|regex:Only a:=a:regex|regex=/b|c:/i|between:1,2|regex::=d:regex" =
      .error (.malformedLiteral .second) := by
  let clauses : List WrittenClause :=
    [.plain "required", .deprecated "Only a" "a", .modern "regex=/".toList ⟨"b|c:", "i", none⟩,
      .plain "between:1,2", .deprecated "" "d"]
  have hclauses : ∀ clause ∈ clauses, clause.WellFormed := by decide +kernel
  have htext : chainText clauses =
      "required|regex:Only a:=a:regex|regex=/b|c:/i|between:1,2|regex::=d:regex" := by
    decide +kernel
  rw [← htext]
  exact (parse_eq_second_iff hclauses (by decide) .second).2 ⟨rfl, by decide⟩

/-- A pattern in the deprecated spelling before the only one in the modern spelling: it is
read as a clause. -/
theorem not_forall_parse_eq_second :
    ¬ ∀ clauses : List WrittenClause, (∀ clause ∈ clauses, clause.WellFormed) →
      2 ≤ (spellings clauses).length →
      ∃ fault, Chain.parse (chainText clauses) = .error (.malformedLiteral fault) := by
  intro hall
  let clauses : List WrittenClause :=
    [.deprecated "Only a" "a", .modern "pattern=/".toList ⟨"b", "", none⟩]
  have hparse : Chain.parse (chainText clauses) =
      .ok ⟨[⟨"regex", ["Only a:=a:regex"], none⟩, ⟨"pattern", [], none⟩],
        some ⟨"b", "", none⟩, false⟩ := by
    decide +kernel
  obtain ⟨fault, hfault⟩ := hall clauses (by decide +kernel) (by decide)
  rw [hparse] at hfault
  cases hfault

end FieldRules.Rule
