import FieldRules.Proofs.ClauseTexts

/-!
# Blanks around the bars of a chain

Blanks before and behind a bar do not matter, except before the bar behind a clause that
ends with a pattern or with the message text of one: there the pattern does not end
where it should, and the blanks become part of the message text.

* `Link`, `joined`, `spaced`: a chain with bars only, and with blanks around the bars.
* `Tight`: no blank stands behind a clause that ends with a pattern.
* `parse_spaced_iff`: exactly then is the chain read as without the blanks.
* `not_forall_parse_spaced`: a chain that is not.
-/

namespace FieldRules

namespace Rule

open Text Literal

/-! ## Chains with blanks -/

/-- A clause behind another one, with the text before the bar between them and the text
behind it. -/
structure Link where
  before : String
  after : String
  clause : String
  deriving DecidableEq

/-- Only blanks stand around the bar. -/
def Link.Blank (link : Link) : Prop :=
  (∀ c ∈ link.before.toList, isBlank c = true) ∧ ∀ c ∈ link.after.toList, isBlank c = true

instance (link : Link) : Decidable link.Blank :=
  decidable_of_iff
    (link.before.toList.all isBlank = true ∧ link.after.toList.all isBlank = true)
    (by rw [List.all_eq_true, List.all_eq_true]; rfl)

/-- The clauses with bars between them. -/
def joined (first : String) : List Link → String
  | [] => first
  | link :: links => first ++ "|" ++ joined link.clause links

/-- The clauses with bars between them and blanks around the bars. -/
def spaced (first : String) : List Link → String
  | [] => first
  | link :: links => first ++ link.before ++ "|" ++ link.after ++ spaced link.clause links

/-- The texts of the clauses. -/
def linked (first : String) (links : List Link) : List String :=
  first :: links.map (·.clause)

/-- No pattern starts in the clause. -/
def PlainClause (text : String) : Prop :=
  hasLiteral text.toList = false

/-- The clause is a pattern in the modern spelling, with a message text or without one. -/
def PatternClause (text : String) : Prop :=
  ∃ opening ∈ modernOpenings, ∃ literal : LiteralPattern, literal.source.toList ≠ [] ∧
    literal.flags.toList ⊆ flagLetters ∧ (∀ alt ∈ literal.alt, '|' ∉ alt.toList) ∧
    text.toList = opening ++ literal.body

/-- At most one of the clauses is a pattern, and no other one has a pattern. -/
structure OnePattern (texts : List String) : Prop where
  clause : ∀ text ∈ texts, PlainClause text ∨ PatternClause text
  one : texts.Pairwise fun text other => PlainClause text ∨ PlainClause other

/-- Nothing of the clause is left behind its pattern, or behind the message text of this. -/
def EndsWithPattern (text : String) : Prop :=
  ∃ literal, find? text.toList = .ok (some ([], literal, []))

/-- No blank stands behind a clause that ends with a pattern. -/
def Tight (first : String) : List Link → Prop
  | [] => True
  | link :: links => (EndsWithPattern first → link.before = "") ∧ Tight link.clause links

variable {first : String} {link : Link} {links : List Link} {lead text rest blanks : List Char}

/-- Without blanks, the chain is the one with bars only. -/
theorem joined_eq_spaced (first : String) (links : List Link) :
    joined first links = spaced first (links.map fun link => ⟨"", "", link.clause⟩) := by
  induction links generalizing first with
  | nil => rfl
  | cons link links ih =>
    rw [joined, List.map_cons, spaced, ih]
    simp

theorem toList_spaced_cons (first : String) (link : Link) (links : List Link) :
    (spaced first (link :: links)).toList = first.toList ++ (link.before.toList ++ '|' ::
      (link.after.toList ++ (spaced link.clause links).toList)) := by
  rw [spaced]
  simp only [String.toList_append, List.append_assoc]
  rfl

theorem toList_joined_cons (first : String) (link : Link) (links : List Link) :
    (joined first (link :: links)).toList =
      first.toList ++ '|' :: (joined link.clause links).toList := by
  rw [joined]
  simp only [String.toList_append, List.append_assoc]
  rfl

/-! ## Blanks and patterns -/

/-- No opening is found in a text that goes on with blanks, if none is found in it. -/
theorem findOpening_append_of_blank {openings : List (List Char)}
    (hopenings : openings ⊆ deprecatedOpening :: modernOpenings)
    (hblanks : ∀ c ∈ blanks, isBlank c = true) {atStart : Bool}
    (h : findOpening openings atStart text = none) :
    findOpening openings atStart (text ++ blanks) = none := by
  have hnot : ∀ word ∈ deprecatedOpening :: modernOpenings,
      word.all (fun c => !isBlank c) = true := by decide +kernel
  have hhead : ∀ word ∈ openings, ∀ c ∈ blanks.head?, c ∉ word := by
    intro word hword c hc hmem
    have hletter := List.all_eq_true.1 (hnot word (hopenings hword)) c hmem
    rw [hblanks c (List.mem_of_mem_head? hc)] at hletter
    cases hletter
  induction text generalizing atStart with
  | nil =>
    rw [List.nil_append, ← List.append_nil blanks]
    cases atStart with
    | false =>
      rw [findOpening_inside (bar_not_mem_of_blank hblanks)]
      rfl
    | true =>
      rw [findOpening_blanks hopenings hblanks]
      rfl
  | cons c text ih =>
    rw [findOpening] at h
    rw [List.cons_append, findOpening]
    dsimp only at h ⊢
    rw [Option.or_eq_none_iff, Option.map_eq_none_iff] at h ⊢
    refine ⟨?_, ih h.2⟩
    split
    · next hstart =>
      have hhere := h.1
      rw [if_pos hstart] at hhere
      refine findSome?_eq_none fun word hmem hbegin => ?_
      have hword := List.findSome?_eq_none_iff.1 hhere word hmem
      rw [Option.map_eq_none_iff, dropLead?_eq_none_iff] at hword
      rw [← List.cons_append] at hbegin
      exact hword (prefix_of_prefix_append (hhead word hmem) hbegin)
    · rfl

theorem hasLiteral_append_of_blank (hblanks : ∀ c ∈ blanks, isBlank c = true) (text : List Char) :
    hasLiteral (text ++ blanks) = hasLiteral text := by
  rw [Bool.eq_iff_iff, ← Bool.not_eq_false, ← Bool.not_eq_false, not_iff_not]
  unfold hasLiteral
  simp only [Option.isSome_eq_false_iff, Option.isNone_iff_eq_none]
  exact ⟨findOpening_eq_none_of_subset (List.Subset.refl _),
    findOpening_append_of_blank (List.Subset.refl _) hblanks⟩

theorem hasLiteral_append_bar_of_plain (hrest : hasLiteral rest = false) (text : List Char) :
    hasLiteral (text ++ '|' :: rest) = hasLiteral text := by
  rw [Bool.eq_iff_iff, ← Bool.not_eq_false, ← Bool.not_eq_false, not_iff_not,
    hasLiteral_append_bar_iff, and_iff_left hrest]

theorem hasLiteral_blank_append (hblanks : ∀ c ∈ blanks, isBlank c = true) (text : List Char) :
    hasLiteral (blanks ++ text) = hasLiteral text := by
  unfold hasLiteral
  rw [findOpening_blanks (List.Subset.refl _) hblanks, Option.isSome_map]

/-! ## What is read -/

/-- The texts of the clauses of a chain, and the pattern that is lifted out of it. -/
def lifted (text : List Char) :
    Except LiteralFault (List (List Char) × Option LiteralPattern) :=
  (extract text).map fun (rest, literal) => (clauseTexts rest, literal)

/-- A chain is read from the texts of its clauses and its pattern. -/
theorem Chain.parse_eq_of_lifted {rules rules' : String}
    (h : lifted rules.toList = lifted rules'.toList) : Chain.parse rules = Chain.parse rules' := by
  unfold lifted at h
  unfold Chain.parse
  cases hextract : extract rules.toList with
  | error fault =>
    rw [hextract] at h
    cases hextract' : extract rules'.toList with
    | error fault' =>
      rw [hextract'] at h
      cases h
      rfl
    | ok found =>
      rw [hextract'] at h
      cases h
  | ok found =>
    rw [hextract] at h
    cases hextract' : extract rules'.toList with
    | error fault =>
      rw [hextract'] at h
      cases h
    | ok found' =>
      rw [hextract'] at h
      obtain ⟨htexts, hliteral⟩ := Prod.mk.inj (Except.ok.inj h)
      dsimp only at htexts hliteral ⊢
      unfold parseClauses
      rw [htexts, hliteral]

theorem exists_lifted_of_parse {rules : String} {chain : Chain}
    (h : Chain.parse rules = .ok chain) :
    ∃ texts, lifted rules.toList = .ok (texts, chain.literal) := by
  obtain ⟨rest, hextract, -⟩ := Chain.parse_eq_ok_iff.1 h
  refine ⟨clauseTexts rest, ?_⟩
  unfold lifted
  rw [hextract]
  rfl

/-- A text without a pattern is read for itself. -/
theorem lifted_of_plain (hplain : hasLiteral text = false) :
    lifted text = .ok (clauseTexts text, none) := by
  unfold lifted extract
  rw [find?_eq_none_iff_hasLiteral.2 hplain]
  rfl

/-- Clauses without a pattern come before those of the rest of the chain. -/
theorem lifted_append_bar (hplain : hasLiteral text = false) (rest : List Char) :
    lifted (text ++ '|' :: rest) =
      (lifted rest).map fun (texts, literal) => (clauseTexts text ++ texts, literal) := by
  unfold lifted extract
  rw [find?_append_bar_of_none (find?_eq_none_iff_hasLiteral.2 hplain)]
  cases find? rest with
  | error fault => rfl
  | ok found =>
    cases found with
    | none =>
      dsimp only [Except.map, Option.map_none]
      rw [clauseTexts_append_bar]
    | some found =>
      obtain ⟨before, literal, after⟩ := found
      have happend : text ++ '|' :: before ++ placeholder ++ after =
          text ++ '|' :: (before ++ placeholder ++ after) := by simp
      dsimp only [Except.map, Option.map_some, Prod.map, id_eq]
      cases hasLiteral after with
      | true => rfl
      | false =>
        rw [if_neg Bool.false_ne_true, if_neg Bool.false_ne_true]
        dsimp only
        rw [happend, clauseTexts_append_bar]

/-- A pattern in the modern spelling is found behind blanks. -/
theorem find?_modern {opening : List Char} (hlead : ∀ c ∈ lead, isBlank c = true)
    (hopening : opening ∈ modernOpenings) (body : List Char) :
    find? (lead ++ (opening ++ body)) =
      (readModern opening body).map fun (literal, rest) => some (lead, literal, rest) := by
  unfold find?
  rw [findOpening_blanks (by decide) hlead, findOpening_of_mem (by decide) hopening]
  dsimp only [Option.map_some, addBefore]
  rw [List.append_nil]

/-- A pattern is read where it ends before a bar or with the chain. -/
theorem lifted_pattern {opening : List Char} {literal : LiteralPattern}
    (hlead : ∀ c ∈ lead, isBlank c = true) (hopening : opening ∈ modernOpenings)
    (hliteral : literal.WellFormed) (hbegins : BeginsWithBar rest) :
    lifted (lead ++ (opening ++ (literal.body ++ rest))) =
      if hasLiteral rest then .error .second
      else .ok (placeholder :: clauseTexts rest, some literal) := by
  have hread : readModern opening (literal.body ++ rest) = .ok (literal, rest) :=
    readModern_eq_ok_iff.2 ⟨hliteral, rfl, hbegins⟩
  have hblank : clauseTexts lead = [] := by
    rw [← List.append_nil lead, clauseTexts_blank_append hlead, clauseTexts_nil]
  have htexts : clauseTexts (lead ++ placeholder ++ rest) = placeholder :: clauseTexts rest := by
    rw [clauseTexts_placeholder (foldl_startsBehind_of_blank hlead) hbegins, hblank]
    rfl
  unfold lifted extract
  rw [find?_modern hlead hopening, hread]
  dsimp only [Except.map]
  cases hasLiteral rest with
  | true => rfl
  | false =>
    rw [if_neg Bool.false_ne_true, if_neg Bool.false_ne_true]
    dsimp only
    rw [htexts]

/-! ## Clauses that are a pattern -/

/-- A slash with flags behind it that may end a pattern ends it, or an earlier one does. -/
theorem isSome_splitBody {source flags : List Char} (hflags : flags ⊆ flagLetters)
    (hrest : ∀ c ∈ rest.head?, c ∉ flagLetters) (hend : mayEnd rest = true) {atFirst : Bool}
    (hsource : atFirst = true → source ≠ []) :
    (splitBody atFirst (source ++ '/' :: (flags ++ rest))).isSome = true := by
  induction source generalizing atFirst with
  | nil =>
    obtain rfl : atFirst = false := Bool.eq_false_iff.2 fun htrue => hsource htrue rfl
    have hdrop := (takeWhile_dropWhile_append (p := (· ∈ flagLetters))
      (fun c hc => decide_eq_true (hflags hc)) (by simpa using hrest)).2
    rw [List.nil_append, splitBody, hdrop, hend]
    rfl
  | cons c source ih =>
    rw [List.cons_append, splitBody]
    dsimp only
    split
    · rfl
    · rw [Option.isSome_map]
      exact ih fun hfalse => absurd hfalse Bool.false_ne_true

/-- A clause that is a pattern is read as one, with a rest of the clause behind it or
without one. -/
theorem PatternClause.exists_read {text : String} (htext : PatternClause text) :
    ∃ opening ∈ modernOpenings, ∃ literal : LiteralPattern, ∃ rest, literal.WellFormed ∧
      BeginsWithBar rest ∧ text.toList = opening ++ (literal.body ++ rest) := by
  obtain ⟨opening, hopening, written, hsource, hflags, halt, heq⟩ := htext
  have hends : mayEnd (renderMessage written.alt ++ []) = true ∧
      ∀ c ∈ (renderMessage written.alt ++ []).head?, c ∉ flagLetters :=
    mayEnd_renderMessage written.alt nofun
  have hbody : (splitBody true (written.source.toList ++
      '/' :: (written.flags.toList ++ (renderMessage written.alt ++ [])))).isSome = true :=
    isSome_splitBody hflags hends.2 hends.1 fun _ => hsource
  obtain ⟨found, hfound⟩ := Option.isSome_iff_exists.1 hbody
  obtain ⟨literal, rest, hread⟩ : ∃ literal rest,
      readModern opening written.body = .ok (literal, rest) := by
    unfold readModern LiteralPattern.body
    rw [List.append_nil] at hfound
    rw [hfound]
    exact ⟨_, _, rfl⟩
  obtain ⟨hliteral, hwritten, hbegins⟩ := readModern_eq_ok_iff.1 hread
  exact ⟨opening, hopening, literal, rest, hliteral, hbegins, by rw [heq, hwritten]⟩

/-- A clause ends with its pattern if nothing is left behind it. -/
theorem endsWithPattern_iff {text : String} {opening : List Char} {literal : LiteralPattern}
    (hopening : opening ∈ modernOpenings) (hliteral : literal.WellFormed)
    (hbegins : BeginsWithBar rest) (htext : text.toList = opening ++ (literal.body ++ rest)) :
    EndsWithPattern text ↔ rest = [] := by
  have hread : readModern opening (literal.body ++ rest) = .ok (literal, rest) :=
    readModern_eq_ok_iff.2 ⟨hliteral, rfl, hbegins⟩
  have hblank : ∀ c ∈ ([] : List Char), isBlank c = true := nofun
  have hfind := find?_modern hblank hopening (literal.body ++ rest)
  rw [hread, List.nil_append] at hfind
  unfold EndsWithPattern
  rw [htext, hfind]
  constructor
  · rintro ⟨_, heq⟩
    cases heq
    rfl
  · rintro rfl
    exact ⟨literal, rfl⟩

theorem not_endsWithPattern (hplain : PlainClause first) : ¬ EndsWithPattern first := by
  rintro ⟨literal, hfind⟩
  rw [find?_eq_none_iff_hasLiteral.2 hplain] at hfind
  cases hfind

/-! ## Plain clauses -/

theorem clauseTexts_spaced (hlead : ∀ c ∈ lead, isBlank c = true)
    (hblank : ∀ link ∈ links, link.Blank) :
    clauseTexts (lead ++ (spaced first links).toList) =
      (linked first links).flatMap fun text => clauseTexts text.toList := by
  induction links generalizing first lead with
  | nil =>
    rw [clauseTexts_blank_append hlead, spaced, linked, List.map_nil, List.flatMap_cons,
      List.flatMap_nil, List.append_nil]
  | cons link links ih =>
    obtain ⟨hbefore, hafter⟩ := hblank link List.mem_cons_self
    have hrest : clauseTexts (link.after.toList ++ (spaced link.clause links).toList) =
        (linked link.clause links).flatMap fun text => clauseTexts text.toList :=
      ih hafter fun other hmem => hblank other (List.mem_cons_of_mem link hmem)
    rw [clauseTexts_blank_append hlead, toList_spaced_cons, ← List.append_assoc,
      clauseTexts_append_bar, clauseTexts_append_of_blank hbefore, hrest]
    rfl

theorem hasLiteral_spaced (hlead : ∀ c ∈ lead, isBlank c = true)
    (hblank : ∀ link ∈ links, link.Blank) (hplain : ∀ text ∈ linked first links, PlainClause text) :
    hasLiteral (lead ++ (spaced first links).toList) = false := by
  have hfirst : hasLiteral first.toList = false := hplain first List.mem_cons_self
  induction links generalizing first lead with
  | nil => rwa [hasLiteral_blank_append hlead, spaced]
  | cons link links ih =>
    obtain ⟨hbefore, hafter⟩ := hblank link List.mem_cons_self
    have hrest : ∀ text ∈ linked link.clause links, PlainClause text :=
      fun text hmem => hplain text (List.mem_cons_of_mem first hmem)
    rw [hasLiteral_blank_append hlead, toList_spaced_cons, ← List.append_assoc,
      hasLiteral_append_bar_iff, hasLiteral_append_of_blank hbefore]
    exact ⟨hfirst, ih hafter (fun other hmem => hblank other (List.mem_cons_of_mem link hmem))
      hrest (hrest _ List.mem_cons_self)⟩

/-! ## The law -/

theorem OnePattern.tail {first next : String} {links : List Link}
    (hone : OnePattern (first :: linked next links)) : OnePattern (linked next links) :=
  ⟨fun text hmem => hone.clause text (List.mem_cons_of_mem first hmem),
    (List.pairwise_cons.1 hone.one).2⟩

/-- Where the first clause is no plain one, all others are plain. -/
theorem OnePattern.plain_of_not {texts : List String} (hone : OnePattern (first :: texts))
    (hfirst : ¬ PlainClause first) : ∀ text ∈ texts, PlainClause text :=
  fun text hmem => ((List.pairwise_cons.1 hone.one).1 text hmem).resolve_left hfirst

theorem tight_of_plain (hplain : ∀ text ∈ linked first links, PlainClause text) :
    Tight first links := by
  induction links generalizing first with
  | nil => trivial
  | cons link links ih =>
    refine ⟨fun hends => absurd hends (not_endsWithPattern (hplain first List.mem_cons_self)), ?_⟩
    exact ih fun text hmem => hplain text (List.mem_cons_of_mem first hmem)

/-- What is read of a chain whose first clause is its pattern. -/
theorem lifted_spaced_pattern (hlead : ∀ c ∈ lead, isBlank c = true) {opening behind : List Char}
    {literal : LiteralPattern} (hopening : opening ∈ modernOpenings) (hliteral : literal.WellFormed)
    (hbegins : BeginsWithBar behind) (hfirst : first.toList = opening ++ (literal.body ++ behind))
    (hblank : ∀ link ∈ links, link.Blank)
    (hplain : ∀ text ∈ links.map (·.clause), PlainClause text) (htight : Tight first links) :
    lifted (lead ++ (spaced first links).toList) =
      if hasLiteral behind then .error .second
      else .ok (placeholder :: (clauseTexts behind ++
        (links.map (·.clause)).flatMap fun text => clauseTexts text.toList), some literal) := by
  cases links with
  | nil =>
    rw [spaced, hfirst, lifted_pattern hlead hopening hliteral hbegins, List.map_nil,
      List.flatMap_nil, List.append_nil]
  | cons link links =>
    obtain ⟨hbefore, hafter⟩ := hblank link List.mem_cons_self
    have hblank : ∀ other ∈ links, other.Blank :=
      fun other hmem => hblank other (List.mem_cons_of_mem link hmem)
    have hrest : hasLiteral (link.after.toList ++ (spaced link.clause links).toList) = false :=
      hasLiteral_spaced hafter hblank hplain
    have hbegins' : BeginsWithBar (behind ++ (link.before.toList ++ '|' ::
        (link.after.toList ++ (spaced link.clause links).toList))) := by
      rcases hbegins.eq_nil_or_cons with rfl | ⟨back, rfl⟩
      · have hnone := htight.1 ((endsWithPattern_iff hopening hliteral hbegins hfirst).2 rfl)
        rw [hnone]
        rintro _ ⟨⟩
        rfl
      · rintro _ ⟨⟩
        rfl
    have htexts : clauseTexts (link.after.toList ++ (spaced link.clause links).toList) =
        (linked link.clause links).flatMap fun text => clauseTexts text.toList :=
      clauseTexts_spaced hafter hblank
    rw [toList_spaced_cons, hfirst, List.append_assoc, List.append_assoc,
      lifted_pattern hlead hopening hliteral hbegins', ← List.append_assoc,
      hasLiteral_append_bar_of_plain hrest, hasLiteral_append_of_blank hbefore,
      clauseTexts_append_bar, clauseTexts_append_of_blank hbefore, htexts]
    rfl

/-- A chain with bars only is a chain with no blanks around its bars. -/
theorem lifted_joined_pattern {opening behind : List Char} {literal : LiteralPattern}
    (hopening : opening ∈ modernOpenings) (hliteral : literal.WellFormed)
    (hbegins : BeginsWithBar behind) (hfirst : first.toList = opening ++ (literal.body ++ behind))
    (hplain : ∀ text ∈ links.map (·.clause), PlainClause text) :
    lifted (joined first links).toList =
      if hasLiteral behind then .error .second
      else .ok (placeholder :: (clauseTexts behind ++
        (links.map (·.clause)).flatMap fun text => clauseTexts text.toList), some literal) := by
  have hlead : ∀ c ∈ ([] : List Char), isBlank c = true := nofun
  have hclauses : (links.map fun link => (⟨"", "", link.clause⟩ : Link)).map (·.clause) =
      links.map (·.clause) := by
    rw [List.map_map]
    rfl
  have hblank : ∀ link ∈ links.map fun link => (⟨"", "", link.clause⟩ : Link), link.Blank :=
    List.forall_mem_map.2 fun _ _ => ⟨nofun, nofun⟩
  have htight : Tight first (links.map fun link => ⟨"", "", link.clause⟩) := by
    clear hfirst hplain hclauses hblank
    induction links generalizing first with
    | nil => trivial
    | cons link links ih => exact ⟨fun _ => rfl, ih⟩
  have hlifted := lifted_spaced_pattern hlead hopening hliteral hbegins hfirst hblank
    (by rwa [hclauses]) htight
  rwa [hclauses, ← joined_eq_spaced, List.nil_append] at hlifted

/-- Blanks do not matter where no blank stands behind a clause that ends with a pattern. -/
theorem lifted_spaced (hlead : ∀ c ∈ lead, isBlank c = true) (hblank : ∀ link ∈ links, link.Blank)
    (hone : OnePattern (linked first links)) (htight : Tight first links) :
    lifted (lead ++ (spaced first links).toList) = lifted (joined first links).toList := by
  induction links generalizing first lead with
  | nil =>
    rcases hone.clause first List.mem_cons_self with hplain | hpattern
    · have hplain' : hasLiteral (lead ++ first.toList) = false := by
        rwa [hasLiteral_blank_append hlead]
      rw [spaced, joined, lifted_of_plain hplain', lifted_of_plain hplain,
        clauseTexts_blank_append hlead]
    · obtain ⟨opening, hopening, literal, behind, hliteral, hbegins, hfirst⟩ := hpattern.exists_read
      have hothers : ∀ text ∈ ([] : List Link).map (·.clause), PlainClause text :=
        List.forall_mem_nil _
      rw [lifted_spaced_pattern hlead hopening hliteral hbegins hfirst hblank hothers htight,
        lifted_joined_pattern hopening hliteral hbegins hfirst hothers]
  | cons link links ih =>
    by_cases hplain : PlainClause first
    · obtain ⟨hbefore, hafter⟩ := hblank link List.mem_cons_self
      have hrest : lifted (link.after.toList ++ (spaced link.clause links).toList) =
          lifted (joined link.clause links).toList :=
        ih hafter (fun other hmem => hblank other (List.mem_cons_of_mem link hmem)) hone.tail
          htight.2
      have hplain' : hasLiteral (lead ++ (first.toList ++ link.before.toList)) = false := by
        rwa [hasLiteral_blank_append hlead, hasLiteral_append_of_blank hbefore]
      rw [toList_spaced_cons, ← List.append_assoc first.toList, ← List.append_assoc lead,
        lifted_append_bar hplain', toList_joined_cons, lifted_append_bar hplain, hrest,
        clauseTexts_blank_append hlead, clauseTexts_append_of_blank hbefore]
    · have hpattern := (hone.clause first List.mem_cons_self).resolve_left hplain
      have hothers := hone.plain_of_not hplain
      obtain ⟨opening, hopening, literal, behind, hliteral, hbegins, hfirst⟩ := hpattern.exists_read
      rw [lifted_spaced_pattern hlead hopening hliteral hbegins hfirst hblank hothers htight,
        lifted_joined_pattern hopening hliteral hbegins hfirst hothers]

/-- Where the same pattern is lifted out of both chains, no blank stands behind a clause
that ends with a pattern. -/
theorem tight_of_lifted {texts texts' : List (List Char)} {literal : Option LiteralPattern}
    (hlead : ∀ c ∈ lead, isBlank c = true) (hblank : ∀ link ∈ links, link.Blank)
    (hone : OnePattern (linked first links))
    (hspaced : lifted (lead ++ (spaced first links).toList) = .ok (texts, literal))
    (hjoined : lifted (joined first links).toList = .ok (texts', literal)) : Tight first links := by
  induction links generalizing first lead texts texts' with
  | nil => trivial
  | cons link links ih =>
    obtain ⟨hbefore, hafter⟩ := hblank link List.mem_cons_self
    have hblank : ∀ other ∈ links, other.Blank :=
      fun other hmem => hblank other (List.mem_cons_of_mem link hmem)
    rw [toList_spaced_cons] at hspaced
    by_cases hplain : PlainClause first
    · refine ⟨fun hends => absurd hends (not_endsWithPattern hplain), ?_⟩
      have hplain' : hasLiteral (lead ++ (first.toList ++ link.before.toList)) = false := by
        rwa [hasLiteral_blank_append hlead, hasLiteral_append_of_blank hbefore]
      rw [← List.append_assoc first.toList, ← List.append_assoc lead,
        lifted_append_bar hplain'] at hspaced
      rw [toList_joined_cons, lifted_append_bar hplain] at hjoined
      obtain ⟨⟨_, _⟩, hspaced, heq⟩ := map_eq_ok hspaced
      cases heq
      obtain ⟨⟨_, _⟩, hjoined, heq⟩ := map_eq_ok hjoined
      cases heq
      exact ih hafter hblank hone.tail hspaced hjoined
    · have hothers := hone.plain_of_not hplain
      refine ⟨fun hends => ?_, tight_of_plain hothers⟩
      have hpattern := (hone.clause first List.mem_cons_self).resolve_left hplain
      obtain ⟨opening, hopening, found, behind, hliteral, hbegins, hfirst⟩ := hpattern.exists_read
      obtain rfl := (endsWithPattern_iff hopening hliteral hbegins hfirst).1 hends
      rw [lifted_joined_pattern hopening hliteral hbegins hfirst hothers] at hjoined
      cases hjoined
      obtain ⟨⟨_, _⟩, hextract, heq⟩ := map_eq_ok hspaced
      cases heq
      -- the pattern ends where it is written only if a bar follows at once
      obtain ⟨_, _, hfind, -, -⟩ := exists_find?_of_extract hextract
      rw [hfirst, List.append_assoc, find?_modern hlead hopening] at hfind
      obtain ⟨⟨_, _⟩, hread, heq⟩ := map_eq_ok hfind
      cases heq
      obtain ⟨-, hbody, hbar⟩ := readModern_eq_ok_iff.1 hread
      rw [List.append_nil] at hbody
      rw [← List.append_cancel_left hbody] at hbar
      cases hchars : link.before.toList with
      | nil => exact String.toList_eq_nil_iff.1 hchars
      | cons c rest =>
        rw [hchars] at hbar hbefore
        obtain rfl := hbar c rfl
        exact absurd (hbefore '|' List.mem_cons_self) (by decide +kernel)

/-- With blanks around its bars, a chain with at most one pattern is read as it is
without them, if no blank stands behind a clause that ends with a pattern.  Where the
chain without the blanks is read, this is the only case in which the same is read with
them. -/
theorem parse_spaced_iff {first : String} {links : List Link}
    (hblank : ∀ link ∈ links, link.Blank) (hone : OnePattern (linked first links)) :
    (Tight first links → Chain.parse (spaced first links) = Chain.parse (joined first links)) ∧
      ∀ chain, Chain.parse (joined first links) = .ok chain →
        (Chain.parse (spaced first links) = .ok chain ↔ Tight first links) := by
  have hlead : ∀ c ∈ ([] : List Char), isBlank c = true := nofun
  have hequal : Tight first links →
      Chain.parse (spaced first links) = Chain.parse (joined first links) :=
    fun htight => Chain.parse_eq_of_lifted (lifted_spaced hlead hblank hone htight)
  refine ⟨hequal, fun chain hjoined => ⟨fun hspaced => ?_, fun htight => ?_⟩⟩
  · obtain ⟨texts, hspaced⟩ := exists_lifted_of_parse hspaced
    obtain ⟨texts', hjoined⟩ := exists_lifted_of_parse hjoined
    exact tight_of_lifted hlead hblank hone hspaced hjoined
  · rw [hequal htight, hjoined]

/-- Blanks before and behind a bar, but none behind the clause that ends with a pattern. -/
theorem parse_spaced_tight :
    Chain.parse (spaced "alpha:alt=A " [⟨" ", "\t", "pattern=/a|b/i"⟩, ⟨"", " ", "required"⟩]) =
      .ok ⟨[⟨"alpha", [], some "A"⟩, ⟨"pattern", [], none⟩, ⟨"required", [], none⟩],
        some ⟨"a|b", "i", none⟩, true⟩ := by
  have hblank : ∀ link ∈ [(⟨" ", "\t", "pattern=/a|b/i"⟩ : Link), ⟨"", " ", "required"⟩],
      link.Blank := by
    decide +kernel
  have hpattern : PatternClause "pattern=/a|b/i" :=
    ⟨"pattern=/".toList, by decide, ⟨"a|b", "i", none⟩, by decide, by decide, nofun, by decide⟩
  have hfirst : PlainClause "alpha:alt=A " := by
    unfold PlainClause
    decide +kernel
  have hlast : PlainClause "required" := by
    unfold PlainClause
    decide +kernel
  have hone : OnePattern (linked "alpha:alt=A "
      [⟨" ", "\t", "pattern=/a|b/i"⟩, ⟨"", " ", "required"⟩]) := by
    constructor
    · simp [linked, hfirst, hpattern, hlast]
    · simp [linked, hfirst, hlast]
  have htight : Tight "alpha:alt=A " [⟨" ", "\t", "pattern=/a|b/i"⟩, ⟨"", " ", "required"⟩] :=
    ⟨fun hends => absurd hends (not_endsWithPattern hfirst), fun _ => rfl, trivial⟩
  have hjoined : Chain.parse (joined "alpha:alt=A "
      [⟨" ", "\t", "pattern=/a|b/i"⟩, ⟨"", " ", "required"⟩]) =
        .ok ⟨[⟨"alpha", [], some "A"⟩, ⟨"pattern", [], none⟩, ⟨"required", [], none⟩],
          some ⟨"a|b", "i", none⟩, true⟩ := by
    decide +kernel
  exact ((parse_spaced_iff hblank hone).2 _ hjoined).2 htight

/-- A blank behind a clause that ends with a pattern: the pattern does not end there, and
the chain is refused. -/
theorem not_forall_parse_spaced :
    ¬ ∀ (first : String) (links : List Link), (∀ link ∈ links, link.Blank) →
      OnePattern (linked first links) → ∀ chain,
        Chain.parse (joined first links) = .ok chain ↔
          Chain.parse (spaced first links) = .ok chain := by
  intro hall
  have hblank : ∀ link ∈ [(⟨" ", "", "required"⟩ : Link)], link.Blank := by
    decide +kernel
  have hpattern : PatternClause "pattern=/a/" :=
    ⟨"pattern=/".toList, by decide, ⟨"a", "", none⟩, by decide, by decide, nofun, by decide⟩
  have hlast : PlainClause "required" := by
    unfold PlainClause
    decide +kernel
  have hone : OnePattern (linked "pattern=/a/" [⟨" ", "", "required"⟩]) := by
    constructor
    · simp [linked, hpattern, hlast]
    · simp [linked, hlast]
  have hjoined : Chain.parse (joined "pattern=/a/" [⟨" ", "", "required"⟩]) =
      .ok ⟨[⟨"pattern", [], none⟩, ⟨"required", [], none⟩], some ⟨"a", "", none⟩, true⟩ := by
    decide +kernel
  have hspaced : Chain.parse (spaced "pattern=/a/" [⟨" ", "", "required"⟩]) =
      .error (.malformedLiteral (.unclosed "pattern=/a/ |required")) := by
    decide +kernel
  have hequal := (hall _ _ hblank hone _).1 hjoined
  rw [hspaced] at hequal
  cases hequal

end Rule

end FieldRules
