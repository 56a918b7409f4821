import FieldRules.Proofs.CompiledRules
import FieldRules.Proofs.RenderedChains

/-!
# Two chains joined with a bar

Texts that are read as chains can be joined with a bar, as long as only one of
them holds a literal pattern.  What is read then is the one chain behind the
other.  This is so for all texts that are read, not only for rendered ones: a
scanner that stops in the first text does not look further, and no word that is
looked for holds a bar and could reach from one text into the other.

* `findOpening_append_bar`: a pattern of the second text is found if the first one
  has none.
* `readModern_append_bar`, `readDeprecated_append_bar`: a pattern of the first text
  ends where it ends without the second one.
* `extract_append_bar`: the pattern of either text is lifted out.
* `Chain.parse_append_bar`: the two chains, one behind the other.
-/

namespace FieldRules

namespace Rule

open Text

namespace Literal

variable {text rest first second before after pattern flags opening body : List Char}
  {literal : LiteralPattern}

/-! ## Where a pattern starts -/

/-- What was found in a text, when more text follows. -/
def addAfter (text : List Char) (found : List Char × List Char × List Char) :
    List Char × List Char × List Char :=
  (found.1, found.2.1, found.2.2 ++ text)

theorem findSome?_append_bar {openings : List (List Char)} (hbar : ∀ word ∈ openings, '|' ∉ word)
    (text rest : List Char) :
    (openings.findSome? fun opening => (dropLead? opening (text ++ '|' :: rest)).map fun after =>
      (([] : List Char), opening, after)) =
      (openings.findSome? fun opening => (dropLead? opening text).map fun after =>
        (([] : List Char), opening, after)).map (addAfter ('|' :: rest)) := by
  induction openings with
  | nil => rfl
  | cons opening openings ih =>
    have ih := ih fun word hmem => hbar word (List.mem_cons_of_mem opening hmem)
    rw [List.findSome?_cons, List.findSome?_cons,
      dropLead?_append_cons (hbar opening List.mem_cons_self)]
    cases dropLead? opening text with
    | none => exact ih
    | some after => rfl

/-- A pattern is looked for in the first text, and then in the second one. -/
theorem findOpening_append_bar {openings : List (List Char)}
    (hopenings : openings ⊆ deprecatedOpening :: modernOpenings) (atStart : Bool)
    (text rest : List Char) :
    findOpening openings atStart (text ++ '|' :: rest) =
      ((findOpening openings atStart text).map (addAfter ('|' :: rest))).or
        ((findOpening openings true rest).map (addBefore (text ++ ['|']))) := by
  induction text generalizing atStart with
  | nil => exact findOpening_bar hopenings atStart rest
  | cons c text ih =>
    have hbar : ∀ word ∈ deprecatedOpening :: modernOpenings, '|' ∉ word := by decide
    have hhere := findSome?_append_bar (fun word hmem => hbar word (hopenings hmem)) (c :: text) rest
    rw [List.cons_append] at hhere ⊢
    rw [findOpening, findOpening]
    dsimp only
    rw [ih, hhere, Option.map_or, Option.map_or, Option.map_map, Option.map_map, Option.map_map,
      ← Option.or_assoc]
    cases atStart <;> rfl

/-- Where no opening of a list is found, and no other one, none of all is found. -/
theorem findOpening_cons_eq_none {opening : List Char} {openings : List (List Char)}
    {atStart : Bool} (hopening : findOpening [opening] atStart text = none)
    (hopenings : findOpening openings atStart text = none) :
    findOpening (opening :: openings) atStart text = none := by
  induction text generalizing atStart with
  | nil => rfl
  | cons c text ih =>
    rw [findOpening] at hopening hopenings ⊢
    dsimp only at hopening hopenings ⊢
    rw [Option.or_eq_none_iff, Option.map_eq_none_iff] at hopening hopenings ⊢
    refine ⟨?_, ih hopening.2 hopenings.2⟩
    cases atStart with
    | false => rfl
    | true =>
      rw [if_pos rfl] at hopening hopenings ⊢
      rw [List.findSome?_cons] at hopening ⊢
      cases hlead : (dropLead? opening (c :: text)).map fun after =>
        (([] : List Char), opening, after) with
      | none => exact hopenings.1
      | some found =>
        rw [hlead] at hopening
        cases hopening.1

/-! ## Where a pattern ends -/

theorem mayEnd_append_bar (text rest : List Char) : mayEnd (text ++ '|' :: rest) = mayEnd text := by
  cases text with
  | nil => rfl
  | cons c text =>
    have hmarker : altMarker.isPrefixOf (text ++ '|' :: rest) = altMarker.isPrefixOf text := by
      rw [Bool.eq_iff_iff, List.isPrefixOf_iff_prefix, List.isPrefixOf_iff_prefix]
      refine ⟨prefix_of_prefix_append ?_, fun hbegin => hbegin.trans (List.prefix_append _ _)⟩
      rintro _ ⟨⟩
      decide
    rw [List.cons_append]
    unfold mayEnd
    split
    · contradiction
    · next heq =>
      cases heq
      rfl
    · next heq =>
      cases heq
      exact hmarker
    · next hbar hcolon =>
      split
      · contradiction
      · next heq =>
        cases heq
        exact absurd rfl (hbar _)
      · next heq =>
        cases heq
        exact absurd rfl (hcolon _)
      · rfl

/-- The end of a pattern does not move when more clauses follow. -/
theorem splitBody_append_bar (rest : List Char) {first : Bool}
    (h : splitBody first text = some (pattern, flags, after)) :
    splitBody first (text ++ '|' :: rest) = some (pattern, flags, after ++ '|' :: rest) := by
  have hbar : decide ('|' ∈ flagLetters) = false := by decide
  induction text generalizing first pattern with
  | nil => cases h
  | cons c text ih =>
    rw [splitBody] at h
    rw [List.cons_append, splitBody, takeWhile_append_cons hbar, dropWhile_append_cons hbar]
    dsimp only at h ⊢
    rw [mayEnd_append_bar]
    split
    · next hend =>
      rw [if_pos hend] at h
      cases h
      rfl
    · next hend =>
      rw [if_neg hend] at h
      obtain ⟨⟨piece, found⟩, hrest, heq⟩ := Option.map_eq_some_iff.1 h
      cases heq
      rw [ih hrest]
      rfl

theorem splitAlt_append_bar (text rest : List Char) :
    splitAlt (text ++ '|' :: rest) = ((splitAlt text).1, (splitAlt text).2 ++ '|' :: rest) := by
  have hbar : decide ('|' ≠ '|') = false := by decide
  unfold splitAlt
  rw [dropLead?_append_cons (by decide)]
  cases dropLead? (':' :: altMarker) text with
  | none => rfl
  | some alt =>
    rw [Option.map_some]
    dsimp only
    rw [takeWhile_append_cons hbar, dropWhile_append_cons hbar]

theorem readModern_append_bar (rest : List Char)
    (h : readModern opening body = .ok (literal, after)) :
    readModern opening (body ++ '|' :: rest) = .ok (literal, after ++ '|' :: rest) := by
  unfold readModern at h ⊢
  cases hbody : splitBody true body with
  | none =>
    rw [hbody] at h
    cases h
  | some found =>
    obtain ⟨pattern, flags, behind⟩ := found
    rw [hbody] at h
    rw [splitBody_append_bar rest hbody]
    dsimp only at h ⊢
    rw [splitAlt_append_bar]
    cases h
    rfl

theorem splitClosing_append_bar (rest : List Char) (h : splitClosing text = some (before, after)) :
    splitClosing (text ++ '|' :: rest) = some (before, after ++ '|' :: rest) := by
  induction text generalizing before with
  | nil => cases h
  | cons c text ih =>
    rw [splitClosing] at h
    rw [List.cons_append, splitClosing, ← List.cons_append, dropLead?_append_cons (by decide)]
    split at h
    · next hlead =>
      cases h
      rw [hlead]
      rfl
    · next hlead =>
      cases h
      rw [hlead]
      rfl
    · next hend hbar =>
      obtain ⟨⟨piece, found⟩, hrest, heq⟩ := Option.map_eq_some_iff.1 h
      cases heq
      -- what stands behind the word is not the end of the clause
      cases hlead : dropLead? ":regex".toList (c :: text) with
      | none =>
        rw [Option.map_none, ih hrest]
        rfl
      | some ending =>
        cases ending with
        | nil => exact absurd hlead hend
        | cons d ending =>
          rw [Option.map_some, List.cons_append, ih hrest]
          split
          · next heq => cases heq
          · next heq =>
            cases heq
            exact absurd hlead (hbar _)
          · rfl

theorem readDeprecated_append_bar (rest : List Char)
    (h : readDeprecated body = .ok (literal, after)) :
    readDeprecated (body ++ '|' :: rest) = .ok (literal, after ++ '|' :: rest) := by
  unfold readDeprecated at h ⊢
  cases hassign : splitAt? ":=".toList body with
  | none =>
    rw [hassign] at h
    cases h
  | some found =>
    obtain ⟨text, source⟩ := found
    rw [hassign] at h
    rw [splitAt?_append_cons (by decide) rest hassign]
    dsimp only at h ⊢
    cases hclosing : splitClosing source with
    | none =>
      rw [hclosing] at h
      cases h
    | some found =>
      obtain ⟨pattern, behind⟩ := found
      rw [hclosing] at h
      rw [splitClosing_append_bar rest hclosing]
      dsimp only at h ⊢
      split at h
      · cases h
      · next hpattern =>
        cases h
        rw [if_neg hpattern]

/-! ## Lifting the pattern out -/

theorem find?_eq_none_iff :
    find? text = .ok none ↔ findOpening modernOpenings true text = none ∧
      findOpening [deprecatedOpening] true text = none := by
  unfold find?
  cases findOpening modernOpenings true text with
  | some found =>
    refine iff_of_false ?_ (fun hnone => nomatch hnone.1)
    dsimp only
    cases readModern found.2.1 found.2.2 <;> exact nofun
  | none =>
    dsimp only
    cases findOpening [deprecatedOpening] true text with
    | some found =>
      refine iff_of_false ?_ (fun hnone => nomatch hnone.2)
      dsimp only
      cases readDeprecated found.2.2 <;> exact nofun
    | none => exact iff_of_true rfl ⟨rfl, rfl⟩

/-- A pattern of the second text is found where the first one has none. -/
theorem find?_append_bar_of_none (hfirst : find? first = .ok none) (second : List Char) :
    find? (first ++ '|' :: second) =
      (find? second).map (Option.map (Prod.map (first ++ '|' :: ·) id)) := by
  obtain ⟨hmodern, hdeprecated⟩ := find?_eq_none_iff.1 hfirst
  unfold find?
  rw [findOpening_append_bar (by decide), findOpening_append_bar (by decide), hmodern, hdeprecated,
    Option.map_none, Option.none_or, Option.none_or]
  cases findOpening modernOpenings true second with
  | some found =>
    dsimp only [Option.map_some, addBefore]
    cases readModern found.2.1 found.2.2 with
    | error fault => rfl
    | ok read => simp [Except.map]
  | none =>
    cases findOpening [deprecatedOpening] true second with
    | some found =>
      dsimp only [Option.map_some, Option.map_none, addBefore]
      cases readDeprecated found.2.2 with
      | error fault => rfl
      | ok read => simp [Except.map]
    | none => rfl

/-- A pattern of the first text is found where it stands. -/
theorem find?_append_bar_of_some (hfirst : find? first = .ok (some (before, literal, after)))
    (hsecond : find? second = .ok none) :
    find? (first ++ '|' :: second) = .ok (some (before, literal, after ++ '|' :: second)) := by
  obtain ⟨hmodern, hdeprecated⟩ := find?_eq_none_iff.1 hsecond
  unfold find? at hfirst ⊢
  rw [findOpening_append_bar (by decide), findOpening_append_bar (by decide), hmodern, hdeprecated,
    Option.map_none, Option.or_none, Option.or_none]
  cases hfound : findOpening modernOpenings true first with
  | some found =>
    rw [hfound] at hfirst
    dsimp only [Option.map_some, addAfter] at hfirst ⊢
    cases hread : readModern found.2.1 found.2.2 with
    | error fault =>
      rw [hread] at hfirst
      cases hfirst
    | ok read =>
      rw [hread] at hfirst
      cases hfirst
      rw [readModern_append_bar second hread]
      rfl
  | none =>
    rw [hfound] at hfirst
    dsimp only [Option.map_none] at hfirst ⊢
    cases hfound : findOpening [deprecatedOpening] true first with
    | some found =>
      rw [hfound] at hfirst
      dsimp only [Option.map_some, addAfter] at hfirst ⊢
      cases hread : readDeprecated found.2.2 with
      | error fault =>
        rw [hread] at hfirst
        cases hfirst
      | ok read =>
        rw [hread] at hfirst
        cases hfirst
        rw [readDeprecated_append_bar second hread]
        rfl
    | none =>
      rw [hfound] at hfirst
      cases hfirst

theorem hasLiteral_eq_false_of_find? (hnone : find? text = .ok none) : hasLiteral text = false := by
  obtain ⟨hmodern, hdeprecated⟩ := find?_eq_none_iff.1 hnone
  rw [hasLiteral, findOpening_cons_eq_none hdeprecated hmodern]
  rfl

theorem hasLiteral_append_bar (hfirst : hasLiteral first = false)
    (hsecond : hasLiteral second = false) : hasLiteral (first ++ '|' :: second) = false := by
  unfold hasLiteral at hfirst hsecond ⊢
  rw [Option.isSome_eq_false_iff, Option.isNone_iff_eq_none] at hfirst hsecond ⊢
  rw [findOpening_append_bar (List.Subset.refl _), hfirst, hsecond]
  rfl

variable {rest₁ rest₂ : List Char} {literal₁ literal₂ : Option LiteralPattern}

/-- A text from which nothing is lifted out has no pattern. -/
theorem find?_of_extract (h : extract text = .ok (rest, none)) :
    find? text = .ok none ∧ rest = text := by
  unfold extract at h
  split at h
  · cases h
  · next hnone =>
    cases h
    exact ⟨hnone, rfl⟩
  · split at h <;> cases h

/-- A pattern that is lifted out is the only one. -/
theorem exists_find?_of_extract (h : extract text = .ok (rest, some literal)) :
    ∃ before after, find? text = .ok (some (before, literal, after)) ∧ hasLiteral after = false ∧
      rest = before ++ placeholder ++ after := by
  unfold extract at h
  split at h
  · cases h
  · cases h
  · next hsome =>
    split at h
    · cases h
    · next hsecond =>
      cases h
      exact ⟨_, _, hsome, Bool.eq_false_iff.2 hsecond, rfl⟩

/-- The pattern of either text is lifted out, and nothing else is. -/
theorem extract_append_bar (hfirst : extract first = .ok (rest₁, literal₁))
    (hsecond : extract second = .ok (rest₂, literal₂)) (hone : literal₁ = none ∨ literal₂ = none) :
    extract (first ++ '|' :: second) = .ok (rest₁ ++ '|' :: rest₂, literal₁.or literal₂) := by
  cases literal₁ with
  | none =>
    obtain ⟨hnone, rfl⟩ := find?_of_extract hfirst
    unfold extract
    rw [find?_append_bar_of_none hnone]
    cases literal₂ with
    | none =>
      obtain ⟨hnone, rfl⟩ := find?_of_extract hsecond
      rw [hnone]
      rfl
    | some literal =>
      obtain ⟨before, after, hsome, hlast, rfl⟩ := exists_find?_of_extract hsecond
      rw [hsome]
      dsimp only [Except.map, Option.map_some, Prod.map]
      rw [id_eq, hlast, if_neg Bool.false_ne_true]
      simp only [List.append_assoc, List.cons_append, Option.none_or]
  | some literal =>
    obtain rfl : literal₂ = none := hone.resolve_left nofun
    obtain ⟨hnone, rfl⟩ := find?_of_extract hsecond
    obtain ⟨before, after, hsome, hlast, rfl⟩ := exists_find?_of_extract hfirst
    unfold extract
    rw [find?_append_bar_of_some hsome hnone]
    dsimp only
    rw [hasLiteral_append_bar hlast (hasLiteral_eq_false_of_find? hnone),
      if_neg Bool.false_ne_true, List.append_assoc _ after]
    rfl

end Literal

/-! ## The chain of both texts -/

theorem clauseTexts_append_bar (first second : List Char) :
    clauseTexts (first ++ '|' :: second) = clauseTexts first ++ clauseTexts second := by
  simp only [clauseTexts, split_append_cons, List.map_append, List.filter_append]

theorem parseClauses_append_bar {first second : List Char} {clauses₁ clauses₂ : List Clause}
    (hfirst : parseClauses first = .ok clauses₁) (hsecond : parseClauses second = .ok clauses₂) :
    parseClauses (first ++ '|' :: second) = .ok (clauses₁ ++ clauses₂) := by
  unfold parseClauses at hfirst hsecond ⊢
  rw [clauseTexts_append_bar, List.mapM_append, hfirst, hsecond]
  rfl

/-- What has been read is a chain of what has been lifted out and of its clauses. -/
theorem Chain.parse_eq_ok_iff {rules : String} {chain : Chain} :
    Chain.parse rules = .ok chain ↔
      ∃ rest, Literal.extract rules.toList = .ok (rest, chain.literal) ∧
        parseClauses rest = .ok chain.clauses ∧
        chain.required = chain.clauses.any (·.name == requiredKeyword) := by
  unfold Chain.parse
  cases Literal.extract rules.toList with
  | error fault => simp
  | ok extracted =>
    obtain ⟨rest, literal⟩ := extracted
    obtain ⟨clauses, literal', required⟩ := chain
    constructor
    · intro hparse
      obtain ⟨_, hclauses, heq⟩ := bind_eq_ok hparse
      cases heq
      exact ⟨rest, rfl, hclauses, rfl⟩
    · rintro ⟨_, heq, hclauses, hrequired⟩
      cases heq
      dsimp only at hclauses hrequired ⊢
      rw [hclauses, hrequired]
      rfl

/-- Two chains that are joined with a bar are read as one, the first before the
second.  The pattern, with its flags and its message text, is that of the chain that
has one. -/
theorem Chain.parse_append_bar {first second : String} {chain₁ chain₂ : Chain}
    (hfirst : Chain.parse first = .ok chain₁) (hsecond : Chain.parse second = .ok chain₂)
    (hone : chain₁.literal = none ∨ chain₂.literal = none) :
    Chain.parse (first ++ "|" ++ second) =
      .ok { clauses := chain₁.clauses ++ chain₂.clauses
            literal := chain₁.literal.or chain₂.literal
            required := chain₁.required || chain₂.required } := by
  obtain ⟨rest₁, hextract₁, hclauses₁, hrequired₁⟩ := Chain.parse_eq_ok_iff.1 hfirst
  obtain ⟨rest₂, hextract₂, hclauses₂, hrequired₂⟩ := Chain.parse_eq_ok_iff.1 hsecond
  have hjoined : (first ++ "|" ++ second).toList = first.toList ++ '|' :: second.toList := by
    rw [String.toList_append, String.toList_append, List.append_assoc]
    rfl
  rw [Chain.parse_eq_ok_iff, hjoined]
  refine ⟨_, Literal.extract_append_bar hextract₁ hextract₂ hone,
    parseClauses_append_bar hclauses₁ hclauses₂, ?_⟩
  rw [List.any_append, hrequired₁, hrequired₂]

/-- A chain with a pattern whose message text goes up to the end, and a chain that
begins with an empty clause and has an opening in a message text. -/
theorem Chain.parse_append_bar_openEnded :
    Chain.parse "alpha:alt=a, b|pattern=/x|y/gi:alt=say: x, /y/" = .ok
        ⟨[⟨"alpha", [], some "a, b"⟩, ⟨"pattern", [], none⟩],
          some ⟨"x|y", "gi", some "say: x, /y/"⟩, false⟩ ∧
      Chain.parse " |required|between:1,2:alt=regex=/z/" = .ok
        ⟨[⟨"required", [], none⟩, ⟨"between", ["1", "2"], some "regex=/z/"⟩], none, true⟩ ∧
      Chain.parse ("alpha:alt=a, b|pattern=/x|y/gi:alt=say: x, /y/" ++ "|" ++
          " |required|between:1,2:alt=regex=/z/") = .ok
        ⟨[⟨"alpha", [], some "a, b"⟩, ⟨"pattern", [], none⟩, ⟨"required", [], none⟩,
            ⟨"between", ["1", "2"], some "regex=/z/"⟩],
          some ⟨"x|y", "gi", some "say: x, /y/"⟩, true⟩ := by
  have hfirst : Chain.parse "alpha:alt=a, b|pattern=/x|y/gi:alt=say: x, /y/" = .ok
      ⟨[⟨"alpha", [], some "a, b"⟩, ⟨"pattern", [], none⟩],
        some ⟨"x|y", "gi", some "say: x, /y/"⟩, false⟩ := by
    decide +kernel
  have hsecond : Chain.parse " |required|between:1,2:alt=regex=/z/" = .ok
      ⟨[⟨"required", [], none⟩, ⟨"between", ["1", "2"], some "regex=/z/"⟩], none, true⟩ := by
    decide +kernel
  exact ⟨hfirst, hsecond, Chain.parse_append_bar hfirst hsecond (.inr rfl)⟩

end Rule

end FieldRules
