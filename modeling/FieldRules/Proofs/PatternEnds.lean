import FieldRules.Proofs.JoinedChains

/-!
# Where a pattern stands in a chain

A pattern that is read out of a chain takes up one stretch of the text.  It begins
at the start of a clause, it ends before a bar or with the chain, and what it is read
as depends on nothing but this stretch.

* `readModern_eq_ok_iff`: what is read in the modern spelling is what can be rendered.
* `exists_of_readDeprecated`: the deprecated spelling has one stretch, too.
* `exists_of_findOpening`: what stands before a pattern.
* `exists_of_find?`: the stretch of a pattern, which can be put between other clauses.
* `hasLiteral_append_bar_iff`: two texts have a pattern if one of them has.
-/

namespace FieldRules

namespace Rule

open Text

namespace Literal

variable {text rest first second before after pattern flags opening body : List Char}
  {literal : LiteralPattern} {openings : List (List Char)}

/-! ## The modern spelling -/

/-- A slash at which a pattern does not end has neither a bar nor the marker of a
message text behind it. -/
theorem not_prefix_of_mayEnd (hend : mayEnd (text ++ '/' :: rest) = false) :
    ¬ ['|'] <+: text ∧ ¬ ':' :: altMarker <+: text := by
  constructor
  · rintro ⟨behind, rfl⟩
    cases hend
  · rintro ⟨behind, rfl⟩
    rw [List.append_assoc, List.cons_append, mayEnd, Bool.eq_false_iff, ne_eq,
      List.isPrefixOf_iff_prefix] at hend
    exact hend (List.prefix_append _ _)

/-- The pattern ends at a slash, and at the first one that may end it. -/
theorem of_splitBody {atFirst : Bool}
    (h : splitBody atFirst text = some (pattern, flags, after)) :
    text = pattern ++ '/' :: (flags ++ after) ∧ flags ⊆ flagLetters ∧ mayEnd after = true ∧
      (atFirst = true → pattern ≠ []) ∧
      ∀ before behind, pattern = before ++ '/' :: behind → (atFirst = true → before ≠ []) →
        ¬ ['|'] <+: behind.dropWhile (· ∈ flagLetters) ∧
          ¬ ':' :: altMarker <+: behind.dropWhile (· ∈ flagLetters) := by
  induction text generalizing atFirst pattern with
  | nil => cases h
  | cons c text ih =>
    rw [splitBody] at h
    dsimp only at h
    split at h
    · next hend =>
      cases h
      simp only [Bool.and_eq_true, decide_eq_true_eq, Bool.not_eq_true'] at hend
      obtain ⟨⟨rfl, rfl⟩, hend⟩ := hend
      have hflags : text.takeWhile (· ∈ flagLetters) ⊆ flagLetters := by
        intro letter hletter
        simpa using List.mem_takeWhile_imp hletter
      refine ⟨?_, hflags, hend, fun hfalse => absurd hfalse Bool.false_ne_true, ?_⟩
      · rw [List.takeWhile_append_dropWhile, List.nil_append]
      · intro before behind hnil
        exact absurd hnil.symm (by simp)
    · next hend =>
      obtain ⟨⟨piece, found⟩, hrest, heq⟩ := Option.map_eq_some_iff.1 h
      cases heq
      obtain ⟨htext, hflags, hafter, -, hopen⟩ := ih hrest
      refine ⟨by rw [htext, List.cons_append], hflags, hafter, fun _ => List.cons_ne_nil c piece, ?_⟩
      intro before behind hpattern hbefore
      cases before with
      | nil =>
        -- the slash stands first, but the pattern does not end there
        obtain ⟨rfl, rfl⟩ := List.cons.inj hpattern
        have hfalse : atFirst = false := Bool.eq_false_iff.2 fun htrue => hbefore htrue rfl
        rw [hfalse, htext, dropWhile_append_cons (by decide)] at hend
        exact not_prefix_of_mayEnd (by simpa using hend)
      | cons d before =>
        obtain ⟨rfl, hpiece⟩ := List.cons.inj hpattern
        exact hopen before behind hpiece fun hfalse => absurd hfalse Bool.false_ne_true

/-- Where a pattern may end, there is a message text or none, and then a bar or the
end of the chain. -/
theorem of_splitAlt {alt : Option (List Char)} (hend : mayEnd text = true)
    (h : splitAlt text = (alt, rest)) :
    text = renderMessage (alt.map String.ofList) ++ rest ∧ (∀ c ∈ rest.head?, c = '|') ∧
      ∀ chars ∈ alt, '|' ∉ chars := by
  unfold splitAlt at h
  split at h
  · next behind hlead =>
    cases h
    refine ⟨?_, ?_, ?_⟩
    · rw [Option.map_some, renderMessage, String.toList_ofList, List.append_assoc,
        List.takeWhile_append_dropWhile]
      exact eq_append_of_dropLead? hlead
    · intro c hc
      have hnot := List.head?_dropWhile_not (fun c => decide (c ≠ '|')) behind
      rw [Option.mem_def.1 hc] at hnot
      simpa using hnot
    · rintro chars hchars hbar
      cases hchars
      have hne := List.mem_takeWhile_imp hbar
      simp at hne
  · next hlead =>
    cases h
    refine ⟨rfl, ?_, by simp⟩
    intro c hc
    unfold mayEnd at hend
    split at hend
    · cases hc
    · cases hc
      rfl
    · rw [List.isPrefixOf_iff_prefix] at hend
      exact absurd (List.cons_prefix_cons.2 ⟨rfl, hend⟩) (dropLead?_eq_none_iff.1 hlead)
    · cases hend

/-- What is read in the modern spelling is what can be rendered, and the chain goes on
behind it with a bar or ends. -/
theorem readModern_eq_ok_iff :
    readModern opening body = .ok (literal, rest) ↔
      literal.WellFormed ∧ body = literal.body ++ rest ∧ ∀ c ∈ rest.head?, c = '|' := by
  constructor
  · intro h
    unfold readModern at h
    split at h
    · cases h
    · next pattern flags after hbody =>
      cases halt : splitAlt after with
      | mk alt behind =>
        rw [halt] at h
        cases h
        obtain ⟨hbody, hflags, hend, hne, hopen⟩ := of_splitBody hbody
        obtain ⟨hafter, hrest, hbar⟩ := of_splitAlt hend halt
        refine ⟨⟨?_, ?_, ?_, ?_⟩, ?_, hrest⟩
        · rw [String.toList_ofList]
          exact hne rfl
        · intro before behind heq hbefore
          rw [String.toList_ofList] at heq
          exact hopen before behind heq fun _ => hbefore
        · rw [String.toList_ofList]
          exact hflags
        · intro text htext
          obtain ⟨chars, hchars, rfl⟩ := Option.map_eq_some_iff.1 htext
          rw [String.toList_ofList]
          exact hbar chars hchars
        · rw [hbody, hafter, LiteralPattern.body, String.toList_ofList, String.toList_ofList]
          simp only [List.append_assoc, List.cons_append]
  · rintro ⟨hliteral, rfl, hrest⟩
    have hread := readModern_render hliteral hrest
    unfold readModern at hread ⊢
    -- the opening is only part of the message about a pattern that does not end
    split at hread
    · cases hread
    · exact hread

/-! ## The deprecated spelling -/

theorem eq_append_of_splitClosing (h : splitClosing text = some (before, after)) :
    text = before ++ (":regex".toList ++ after) ∧ ∀ c ∈ after.head?, c = '|' := by
  induction text generalizing before with
  | nil => cases h
  | cons c text ih =>
    rw [splitClosing] at h
    split at h
    · next hlead =>
      cases h
      refine ⟨?_, by simp⟩
      rw [List.nil_append, ← eq_append_of_dropLead? hlead]
    · next behind hlead =>
      cases h
      refine ⟨?_, ?_⟩
      · rw [List.nil_append, ← eq_append_of_dropLead? hlead]
      · rintro _ ⟨⟩
        rfl
    · obtain ⟨⟨piece, found⟩, hrest, heq⟩ := Option.map_eq_some_iff.1 h
      cases heq
      obtain ⟨htext, hafter⟩ := ih hrest
      exact ⟨by rw [htext, List.cons_append], hafter⟩

/-- The end of a pattern stays the end when the rest of the chain is taken away. -/
theorem splitClosing_of_append (h : splitClosing (text ++ '|' :: rest) = some (before, '|' :: rest)) :
    splitClosing text = some (before, []) := by
  induction text generalizing before with
  | nil =>
    have hlength := congrArg List.length (eq_append_of_splitClosing h).1
    simp at hlength
    omega
  | cons c text ih =>
    rw [List.cons_append, splitClosing, ← List.cons_append, dropLead?_append_cons (by decide)] at h
    rw [splitClosing]
    cases hlead : dropLead? ":regex".toList (c :: text) with
    | none =>
      rw [hlead] at h
      obtain ⟨⟨piece, found⟩, hrest, heq⟩ := Option.map_eq_some_iff.1 h
      cases heq
      dsimp only
      rw [ih hrest]
      rfl
    | some behind =>
      rw [hlead, Option.map_some] at h
      cases behind with
      | nil =>
        cases h
        rfl
      | cons d behind =>
        rw [List.cons_append] at h
        split at h
        · next heq => cases heq
        · next heq =>
          cases heq
          have hlength := congrArg (fun found => found.map (·.2.length)) h
          simp only [Option.map_some, List.length_cons, List.length_append,
            Option.some.injEq] at hlength
          omega
        · next hbar =>
          obtain ⟨⟨piece, found⟩, hrest, heq⟩ := Option.map_eq_some_iff.1 h
          cases heq
          split
          · next heq => cases heq
          · next heq =>
            cases heq
            exact absurd rfl (hbar _)
          · rw [ih hrest]
            rfl

/-- The deprecated spelling is one stretch of the text, too. -/
theorem exists_of_readDeprecated (h : readDeprecated body = .ok (literal, rest)) :
    ∃ written, body = written ++ rest ∧ (∀ c ∈ rest.head?, c = '|') ∧
      readDeprecated written = .ok (literal, []) := by
  have hread := h
  unfold readDeprecated at h
  split at h
  · cases h
  · next text behind hassign =>
    split at h
    · cases h
    · next pattern after hclosing =>
      split at h
      · cases h
      · next hpattern =>
        cases h
        have hbody := eq_append_of_splitAt? hassign
        obtain ⟨hbehind, hrest⟩ := eq_append_of_splitClosing hclosing
        refine ⟨text ++ (":=".toList ++ (pattern ++ ":regex".toList)), ?_, hrest, ?_⟩
        · rw [hbody, hbehind]
          simp only [List.append_assoc]
        · have hfirst : splitAt? ":=".toList
              (text ++ (":=".toList ++ (pattern ++ ":regex".toList))) =
                some (text, pattern ++ ":regex".toList) :=
            splitAt?_append (by decide) (not_infix_of_splitAt? (by decide) hassign) _
          have hlast : splitClosing (pattern ++ ":regex".toList) = some (pattern, []) := by
            cases rest with
            | nil => rwa [hbehind, List.append_nil] at hclosing
            | cons c rest =>
              cases hrest c rfl
              rw [hbehind, ← List.append_assoc] at hclosing
              exact splitClosing_of_append hclosing
          unfold readDeprecated
          rw [hfirst]
          dsimp only
          rw [hlast]
          dsimp only
          rw [if_neg hpattern]

/-! ## Between bars and blanks -/

/-- The text is empty or ends with a bar. -/
def EndsWithBar (text : List Char) : Prop :=
  ∀ c ∈ text.getLast?, c = '|'

/-- The text is empty or begins with a bar. -/
def BeginsWithBar (text : List Char) : Prop :=
  ∀ c ∈ text.head?, c = '|'

theorem EndsWithBar.eq_nil_or_concat (hlead : EndsWithBar text) :
    text = [] ∨ ∃ front, text = front ++ ['|'] := by
  rcases List.eq_nil_or_concat' text with rfl | ⟨front, c, rfl⟩
  · exact .inl rfl
  · obtain rfl : c = '|' := hlead c (by simp)
    exact .inr ⟨front, rfl⟩

theorem BeginsWithBar.eq_nil_or_cons (htrail : BeginsWithBar text) :
    text = [] ∨ ∃ back, text = '|' :: back := by
  cases text with
  | nil => exact .inl rfl
  | cons c back =>
    cases htrail c rfl
    exact .inr ⟨back, rfl⟩

/-- A pattern is found in a text that ends with a bar, or behind it. -/
theorem findOpening_lead (hopenings : openings ⊆ deprecatedOpening :: modernOpenings)
    (hlead : EndsWithBar before) (text : List Char) :
    findOpening openings true (before ++ text) =
      ((findOpening openings true before).map (addAfter text)).or
        ((findOpening openings true text).map (addBefore before)) := by
  rcases hlead.eq_nil_or_concat with rfl | ⟨front, rfl⟩
  · exact (Option.map_id' ..).symm
  · have hfront := findOpening_append_bar hopenings true front []
    rw [findOpening, Option.map_none, Option.or_none] at hfront
    rw [hfront, Option.map_map, List.append_assoc, List.singleton_append,
      findOpening_append_bar hopenings]
    congr 2
    funext found
    simp [addAfter]

/-- A pattern is found before a bar, or in what begins with the bar. -/
theorem findOpening_trail (hopenings : openings ⊆ deprecatedOpening :: modernOpenings)
    (htrail : BeginsWithBar after) (atStart : Bool) (text : List Char) :
    findOpening openings atStart (text ++ after) =
      ((findOpening openings atStart text).map (addAfter after)).or
        ((findOpening openings true after).map (addBefore text)) := by
  rcases htrail.eq_nil_or_cons with rfl | ⟨back, rfl⟩
  · rw [List.append_nil, findOpening, Option.map_none, Option.or_none]
    have hsame : addAfter [] = id := by
      funext found
      simp [addAfter]
    rw [hsame, Option.map_id_apply]
  · rw [findOpening_append_bar hopenings, findOpening_bar hopenings, Option.map_map,
      addBefore_comp]

/-- A clause starts behind the blanks at its front. -/
theorem findOpening_blanks (hopenings : openings ⊆ deprecatedOpening :: modernOpenings)
    {blanks : List Char} (hblanks : ∀ c ∈ blanks, isBlank c = true) (text : List Char) :
    findOpening openings true (blanks ++ text) =
      (findOpening openings true text).map (addBefore blanks) := by
  have hfirst : ∀ word ∈ deprecatedOpening :: modernOpenings,
      word ≠ [] ∧ word.head?.all (fun c => !isBlank c) = true := by decide +kernel
  induction blanks with
  | nil => exact (Option.map_id' ..).symm
  | cons c blanks ih =>
    have hc := hblanks c List.mem_cons_self
    have hnone : ∀ word ∈ openings, ¬ word <+: c :: (blanks ++ text) := by
      intro word hmem hbegin
      obtain ⟨hne, hhead⟩ := hfirst word (hopenings hmem)
      obtain ⟨d, word, rfl⟩ := List.exists_cons_of_ne_nil hne
      rw [(List.cons_prefix_cons.1 hbegin).1] at hhead
      rw [List.head?_cons, Option.all_some, hc] at hhead
      exact Bool.false_ne_true hhead
    have hstart : startsBehind true c = true := by
      unfold startsBehind
      rw [hc, Bool.and_true, Bool.or_true]
    rw [List.cons_append, findOpening, if_pos rfl, findSome?_eq_none hnone, Option.none_or, hstart,
      ih fun d hmem => hblanks d (List.mem_cons_of_mem c hmem), Option.map_map]
    rfl

/-- A clause starts behind a text if only blanks stand between the last bar and its end. -/
theorem exists_of_foldl_startsBehind (h : text.foldl startsBehind true = true) :
    ∃ lead blanks, text = lead ++ blanks ∧ EndsWithBar lead ∧ ∀ c ∈ blanks, isBlank c = true := by
  induction text using List.reverseRecOn with
  | nil => exact ⟨[], [], rfl, nofun, nofun⟩
  | append_singleton text c ih =>
    rw [List.foldl_append, List.foldl_cons, List.foldl_nil, startsBehind, Bool.or_eq_true,
      decide_eq_true_eq, Bool.and_eq_true] at h
    rcases h with rfl | ⟨hstart, hc⟩
    · exact ⟨text ++ ['|'], [], (List.append_nil _).symm, by simp [EndsWithBar], nofun⟩
    · obtain ⟨lead, blanks, rfl, hlead, hblanks⟩ := ih hstart
      refine ⟨lead, blanks ++ [c], List.append_assoc _ _ _, hlead, ?_⟩
      simpa [or_imp, forall_and] using ⟨hblanks, hc⟩

/-- A pattern is found at the start of a clause. -/
theorem exists_of_findOpening {atStart : Bool}
    (h : findOpening openings atStart text = some (before, opening, body)) :
    text = before ++ (opening ++ body) ∧ opening ∈ openings ∧
      before.foldl startsBehind atStart = true := by
  induction text generalizing atStart before with
  | nil => cases h
  | cons c text ih =>
    rw [findOpening] at h
    dsimp only at h
    rw [Option.or_eq_some_iff] at h
    rcases h with h | ⟨-, h⟩
    · split at h
      · next hstart =>
        obtain ⟨word, hmem, hword⟩ := List.exists_of_findSome?_eq_some h
        obtain ⟨behind, hlead, heq⟩ := Option.map_eq_some_iff.1 hword
        cases heq
        refine ⟨?_, hmem, hstart⟩
        rw [List.nil_append, ← eq_append_of_dropLead? hlead]
      · cases h
    · obtain ⟨⟨front, found⟩, hrest, heq⟩ := Option.map_eq_some_iff.1 h
      cases heq
      obtain ⟨htext, hmem, hstart⟩ := ih hrest
      exact ⟨by rw [htext, List.cons_append], hmem, hstart⟩

/-- Where no opening is found, none of fewer openings is found in less text. -/
theorem findOpening_eq_none_of_subset {fewer : List (List Char)} (hfewer : fewer ⊆ openings)
    {atStart : Bool} (h : findOpening openings atStart (text ++ rest) = none) :
    findOpening fewer atStart text = none := by
  induction text generalizing atStart with
  | nil => rfl
  | cons c text ih =>
    rw [List.cons_append, findOpening] at h
    rw [findOpening]
    dsimp only at h ⊢
    rw [Option.or_eq_none_iff, Option.map_eq_none_iff] at h ⊢
    refine ⟨?_, ih h.2⟩
    split
    · next hstart =>
      have hhere := h.1
      rw [if_pos hstart] at hhere
      refine findSome?_eq_none fun word hmem hbegin => ?_
      have hword := List.findSome?_eq_none_iff.1 hhere word (hfewer hmem)
      rw [Option.map_eq_none_iff, dropLead?_eq_none_iff] at hword
      rw [← List.cons_append] at hword
      exact hword (hbegin.trans (List.prefix_append _ _))
    · rfl

/-- No opening is found before the first one. -/
theorem findOpening_before {atStart : Bool}
    (h : findOpening openings atStart text = some (before, opening, body)) :
    findOpening openings atStart before = none := by
  induction text generalizing atStart before with
  | nil => cases h
  | cons c text ih =>
    have htext := (exists_of_findOpening h).1
    rw [findOpening] at h
    dsimp only at h
    rw [Option.or_eq_some_iff] at h
    rcases h with h | ⟨hhere, h⟩
    · split at h
      · obtain ⟨word, -, hword⟩ := List.exists_of_findSome?_eq_some h
        obtain ⟨behind, -, heq⟩ := Option.map_eq_some_iff.1 hword
        cases heq
        rfl
      · cases h
    · obtain ⟨⟨front, found⟩, hrest, heq⟩ := Option.map_eq_some_iff.1 h
      cases heq
      rw [findOpening]
      dsimp only
      rw [Option.or_eq_none_iff, Option.map_eq_none_iff]
      refine ⟨?_, ih hrest⟩
      split
      · next hstart =>
        rw [if_pos hstart] at hhere
        refine findSome?_eq_none fun word hmem hbegin => ?_
        have hword := List.findSome?_eq_none_iff.1 hhere word hmem
        rw [Option.map_eq_none_iff, dropLead?_eq_none_iff, htext] at hword
        exact hword (hbegin.trans (List.prefix_append _ _))
      · rfl

/-- A text without patterns behind which a clause starts is passed over. -/
theorem findOpening_start (hopenings : openings ⊆ deprecatedOpening :: modernOpenings)
    (hstart : before.foldl startsBehind true = true)
    (hnone : findOpening openings true before = none) (text : List Char) :
    findOpening openings true (before ++ text) =
      (findOpening openings true text).map (addBefore before) := by
  obtain ⟨lead, blanks, rfl, hlead, hblanks⟩ := exists_of_foldl_startsBehind hstart
  have hnone := findOpening_eq_none_of_subset (List.Subset.refl _) hnone
  rw [List.append_assoc, findOpening_lead hopenings hlead, hnone, Option.map_none, Option.none_or,
    findOpening_blanks hopenings hblanks, Option.map_map, addBefore_comp]

/-! ## Texts with a pattern -/

theorem hasLiteral_eq_false_iff :
    hasLiteral text = false ↔ findOpening modernOpenings true text = none ∧
      findOpening [deprecatedOpening] true text = none := by
  constructor
  · intro h
    rw [hasLiteral, Option.isSome_eq_false_iff, Option.isNone_iff_eq_none,
      ← List.append_nil text] at h
    exact ⟨findOpening_eq_none_of_subset (by decide) h, findOpening_eq_none_of_subset (by decide) h⟩
  · rintro ⟨hmodern, hdeprecated⟩
    rw [hasLiteral, findOpening_cons_eq_none hdeprecated hmodern]
    rfl

theorem find?_eq_none_iff_hasLiteral : find? text = .ok none ↔ hasLiteral text = false :=
  find?_eq_none_iff.trans hasLiteral_eq_false_iff.symm

theorem hasLiteral_append_bar_iff :
    hasLiteral (first ++ '|' :: second) = false ↔
      hasLiteral first = false ∧ hasLiteral second = false := by
  unfold hasLiteral
  rw [findOpening_append_bar (List.Subset.refl _)]
  simp only [Option.isSome_eq_false_iff, Option.isNone_iff_eq_none, Option.or_eq_none_iff,
    Option.map_eq_none_iff]

/-- The stretch is read as the pattern wherever it stands, between a text in which no
pattern begins unless one does in the text before it, and one without a pattern. -/
def Transplants (before written : List Char) (literal : LiteralPattern) : Prop :=
  ∀ front back, front.foldl startsBehind true = true →
    (∀ openings ∈ [modernOpenings, [deprecatedOpening]],
      findOpening openings true before = none → findOpening openings true front = none) →
    hasLiteral back = false → BeginsWithBar back →
    find? (front ++ (written ++ back)) = .ok (some (front, literal, back))

theorem transplants_modern {opening : List Char} (hopening : opening ∈ modernOpenings)
    (hliteral : literal.WellFormed)
    (hbefore : findOpening modernOpenings true before = none) :
    Transplants before (opening ++ literal.body) literal := by
  have hmodernOpenings : modernOpenings ⊆ deprecatedOpening :: modernOpenings := by decide
  intro front back hfront hnone hback hbegins
  have hfrontModern := hnone modernOpenings List.mem_cons_self hbefore
  have hread : readModern opening (literal.body ++ back) = .ok (literal, back) :=
    readModern_eq_ok_iff.2 ⟨hliteral, rfl, hbegins⟩
  unfold find?
  rw [findOpening_start hmodernOpenings hfront hfrontModern, List.append_assoc,
    findOpening_of_mem hmodernOpenings hopening]
  dsimp only [Option.map_some, addBefore]
  rw [hread, List.append_nil]
  rfl

theorem transplants_deprecated {stretch : List Char}
    (hbeforeModern : findOpening modernOpenings true before = none)
    (hwritten : findOpening modernOpenings true (deprecatedOpening ++ stretch) = none)
    (hbeforeDeprecated : findOpening [deprecatedOpening] true before = none)
    (hread : readDeprecated stretch = .ok (literal, [])) :
    Transplants before (deprecatedOpening ++ stretch) literal := by
  have hmodernOpenings : modernOpenings ⊆ deprecatedOpening :: modernOpenings := by decide
  have hdeprecatedOpening : [deprecatedOpening] ⊆ deprecatedOpening :: modernOpenings := by decide
  intro front back hfront hnone hback hbegins
  have hfrontModern := hnone modernOpenings (by decide) hbeforeModern
  have hfrontDeprecated := hnone [deprecatedOpening] (by decide) hbeforeDeprecated
  have hread : readDeprecated (stretch ++ back) = .ok (literal, back) := by
    rcases hbegins.eq_nil_or_cons with rfl | ⟨rest, rfl⟩
    · rwa [List.append_nil]
    · exact readDeprecated_append_bar rest hread
  unfold find?
  rw [findOpening_start hmodernOpenings hfront hfrontModern,
    findOpening_trail hmodernOpenings hbegins, hwritten, (hasLiteral_eq_false_iff.1 hback).1,
    findOpening_start hdeprecatedOpening hfront hfrontDeprecated, List.append_assoc,
    findOpening_of_mem hdeprecatedOpening List.mem_cons_self]
  dsimp only [Option.map_none, Option.none_or, Option.map_some, addBefore]
  rw [hread, List.append_nil]
  rfl

/-- The pattern of a chain takes up one stretch of its text.  With other clauses before
it and behind it, it is read as the same, as long as no pattern comes before. -/
theorem exists_of_find? (h : find? text = .ok (some (before, literal, after))) :
    ∃ written, text = before ++ (written ++ after) ∧ before.foldl startsBehind true = true ∧
      BeginsWithBar after ∧ Transplants before written literal := by
  have hmodernOpenings : modernOpenings ⊆ deprecatedOpening :: modernOpenings := by decide
  unfold find? at h
  cases hmodern : findOpening modernOpenings true text with
  | some found =>
    obtain ⟨front, opening, body⟩ := found
    rw [hmodern] at h
    obtain ⟨⟨read, behind⟩, hread, heq⟩ := map_eq_ok h
    cases heq
    obtain ⟨htext, hopening, hstart⟩ := exists_of_findOpening hmodern
    obtain ⟨hliteral, rfl, hbar⟩ := readModern_eq_ok_iff.1 hread
    exact ⟨opening ++ literal.body, by rw [htext, List.append_assoc], hstart, hbar,
      transplants_modern hopening hliteral (findOpening_before hmodern)⟩
  | none =>
    rw [hmodern] at h
    dsimp only at h
    cases hdeprecated : findOpening [deprecatedOpening] true text with
    | none =>
      rw [hdeprecated] at h
      cases h
    | some found =>
      obtain ⟨front, opening, body⟩ := found
      rw [hdeprecated] at h
      obtain ⟨⟨read, behind⟩, hread, heq⟩ := map_eq_ok h
      cases heq
      obtain ⟨htext, hopening, hstart⟩ := exists_of_findOpening hdeprecated
      obtain rfl := List.mem_singleton.1 hopening
      obtain ⟨stretch, rfl, hbar, hread⟩ := exists_of_readDeprecated hread
      have hbefore : findOpening modernOpenings true before = none := by
        rw [htext] at hmodern
        exact findOpening_eq_none_of_subset (List.Subset.refl _) hmodern
      have hwritten : findOpening modernOpenings true (deprecatedOpening ++ stretch) = none := by
        rw [htext, findOpening_start hmodernOpenings hstart hbefore, Option.map_eq_none_iff,
          ← List.append_assoc] at hmodern
        exact findOpening_eq_none_of_subset (List.Subset.refl _) hmodern
      exact ⟨deprecatedOpening ++ stretch, by rw [htext, List.append_assoc], hstart, hbar,
        transplants_deprecated hbefore hwritten (findOpening_before hdeprecated) hread⟩

end Literal

end Rule

end FieldRules
