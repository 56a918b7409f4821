import FieldRules.Proofs.PatternEnds

/-!
# The clauses of a chain and the text around them

Each clause of a chain stands at one place of its text, between bars and outside of
the pattern.  Another clause can be put there without any effect on the others.

* `trim_append_of_blank`, `clauseTexts_blank_append` and their like: blanks at the ends
  do not matter.
* `clauseTexts_lead`, `clauseTexts_trail`: the clauses before a bar and behind it.
* `exists_of_clauseTexts`: the place of a clause in a chain without a pattern.
* `replaceable_of_extract`: the place of a clause in any chain.
-/

namespace FieldRules

namespace Text

variable {text before after blanks : List Char}

/-! ## Blanks at the ends -/

theorem trim_blank_append (hblanks : ∀ c ∈ blanks, isBlank c = true) (text : List Char) :
    trim (blanks ++ text) = trim text := by
  unfold trim
  rw [List.dropWhile_append_of_pos hblanks]

theorem trimEnd_append_of_blank (hblanks : ∀ c ∈ blanks, isBlank c = true) (text : List Char) :
    trimEnd (text ++ blanks) = trimEnd text := by
  unfold trimEnd
  rw [List.reverse_append, List.dropWhile_append_of_pos]
  intro c hc
  exact hblanks c (List.mem_reverse.1 hc)

theorem trim_append_of_blank (hblanks : ∀ c ∈ blanks, isBlank c = true) (text : List Char) :
    trim (text ++ blanks) = trim text := by
  unfold trim
  rw [List.dropWhile_append]
  split
  · next hempty =>
    have hnil : blanks.dropWhile isBlank = [] := List.dropWhile_eq_nil_iff.2 hblanks
    rw [hnil, List.isEmpty_iff.1 hempty]
  · exact trimEnd_append_of_blank hblanks _

/-- A text is what is left when it is trimmed, with blanks around it. -/
theorem exists_eq_trim (text : List Char) :
    ∃ front back, text = front ++ (trim text ++ back) ∧ (∀ c ∈ front, isBlank c = true) ∧
      ∀ c ∈ back, isBlank c = true := by
  refine ⟨text.takeWhile isBlank, (text.dropWhile isBlank).rtakeWhile isBlank, ?_, ?_, ?_⟩
  · have hback : trim text ++ (text.dropWhile isBlank).rtakeWhile isBlank =
        text.dropWhile isBlank := List.rdropWhile_append_rtakeWhile
    rw [hback, List.takeWhile_append_dropWhile]
  · exact fun c hc => List.mem_takeWhile_imp hc
  · exact fun c hc => List.mem_rtakeWhile_imp hc

end Text

namespace Rule

open Text Literal

variable {text lead piece trail blanks rest : List Char} {texts : List (List Char)}
  {literal : Option LiteralPattern}

/-! ## Between bars -/

theorem clauseTexts_nil : clauseTexts [] = [] := by
  decide +kernel

theorem clauseTexts_bar (text : List Char) : clauseTexts ('|' :: text) = clauseTexts text := by
  rw [← List.nil_append ('|' :: text), clauseTexts_append_bar, clauseTexts_nil, List.nil_append]

theorem clauseTexts_lead (hlead : EndsWithBar lead) (text : List Char) :
    clauseTexts (lead ++ text) = clauseTexts lead ++ clauseTexts text := by
  rcases hlead.eq_nil_or_concat with rfl | ⟨front, rfl⟩
  · rw [clauseTexts_nil]
    rfl
  · rw [List.append_assoc, List.singleton_append, clauseTexts_append_bar, clauseTexts_append_bar,
      clauseTexts_nil, List.append_nil]

theorem clauseTexts_trail (htrail : BeginsWithBar trail) (text : List Char) :
    clauseTexts (text ++ trail) = clauseTexts text ++ clauseTexts trail := by
  rcases htrail.eq_nil_or_cons with rfl | ⟨back, rfl⟩
  · rw [clauseTexts_nil, List.append_nil, List.append_nil]
  · rw [clauseTexts_append_bar, clauseTexts_bar]

theorem split_of_not_mem {sep : Char} (hfree : sep ∉ text) : split sep text = [text] := by
  have hsplit : split sep ([sep].intercalate [text]) = [text] :=
    split_intercalate (List.cons_ne_nil text []) (List.forall_mem_singleton.2 hfree)
  rwa [List.intercalate_singleton] at hsplit

theorem not_mem_of_mem_split {sep : Char} (hmem : piece ∈ split sep text) : sep ∉ piece := by
  induction text generalizing piece with
  | nil =>
    rw [split, List.mem_singleton] at hmem
    rw [hmem]
    exact List.not_mem_nil
  | cons c text ih =>
    rw [split] at hmem
    split at hmem
    · rcases List.mem_cons.1 hmem with rfl | hmem
      · exact List.not_mem_nil
      · exact ih hmem
    · next hc =>
      cases hsplit : split sep text with
      | nil =>
        rw [hsplit] at hmem
        rw [List.mem_singleton.1 hmem, List.mem_singleton]
        exact Ne.symm hc
      | cons first others =>
        rw [hsplit] at hmem ih
        rcases List.mem_cons.1 hmem with rfl | hmem
        · rw [List.mem_cons, not_or]
          exact ⟨Ne.symm hc, ih List.mem_cons_self⟩
        · exact ih (List.mem_cons_of_mem first hmem)

/-- A text without bars is one clause, unless it is blank. -/
theorem clauseTexts_of_not_mem (hfree : '|' ∉ text) :
    clauseTexts text = [trim text].filter (!·.isEmpty) := by
  unfold clauseTexts
  rw [split_of_not_mem hfree, List.map_singleton]

theorem clauseTexts_behind (hfree : ∀ text ∈ texts, '|' ∉ text) :
    clauseTexts (behind texts) = (texts.map trim).filter (!·.isEmpty) := by
  induction texts with
  | nil => exact clauseTexts_nil
  | cons text texts ih =>
    have hbegins : BeginsWithBar (behind texts) := eq_bar_of_head?_behind
    rw [behind, List.flatMap_cons, ← behind, List.cons_append, clauseTexts_bar,
      clauseTexts_trail hbegins,
      clauseTexts_of_not_mem (hfree text List.mem_cons_self),
      ih fun other hmem => hfree other (List.mem_cons_of_mem text hmem), List.map_cons,
      ← List.filter_append, List.singleton_append]

theorem endsWithBar_ahead (texts : List (List Char)) : EndsWithBar (ahead texts) := by
  rcases List.eq_nil_or_concat' texts with rfl | ⟨texts, text, rfl⟩
  · exact nofun
  · simp [ahead, EndsWithBar]

theorem clauseTexts_ahead (hfree : ∀ text ∈ texts, '|' ∉ text) :
    clauseTexts (ahead texts) = (texts.map trim).filter (!·.isEmpty) := by
  induction texts with
  | nil => exact clauseTexts_nil
  | cons text texts ih =>
    rw [ahead, List.flatMap_cons, ← ahead, List.append_assoc, List.singleton_append,
      clauseTexts_append_bar, clauseTexts_of_not_mem (hfree text List.mem_cons_self),
      ih fun other hmem => hfree other (List.mem_cons_of_mem text hmem), List.map_cons,
      ← List.filter_append, List.singleton_append]

/-- Every clause stands at one place between bars. -/
theorem exists_of_clauseTexts {earlier later : List (List Char)} {clause : List Char}
    (h : clauseTexts text = earlier ++ clause :: later) :
    ∃ lead piece trail, text = lead ++ (piece ++ trail) ∧ EndsWithBar lead ∧ BeginsWithBar trail ∧
      trim piece = clause ∧ clauseTexts lead = earlier ∧ clauseTexts trail = later := by
  have htext : ['|'].intercalate (split '|' text) = text := by
    rw [split_eq_splitOn, List.intercalate_splitOn]
  unfold clauseTexts at h
  -- the pieces before the clause, some of them blank, and those behind it
  obtain ⟨first, second, hsplit, hfirst, hsecond⟩ := List.filter_eq_append_iff.1 h
  obtain ⟨blank, third, rfl, hblank, -, hthird⟩ := List.filter_eq_cons_iff.1 hsecond
  obtain ⟨texts, others, hpieces, rfl, hothers⟩ := List.map_eq_append_iff.1 hsplit
  obtain ⟨blanks, pieces, rfl, rfl, hpiece⟩ := List.map_eq_append_iff.1 hothers
  obtain ⟨piece, pieces, rfl, rfl, rfl⟩ := List.map_eq_cons_iff.1 hpiece
  have hfree : ∀ other ∈ texts ++ (blanks ++ piece :: pieces), '|' ∉ other := by
    rw [← hpieces]
    exact fun other hmem => not_mem_of_mem_split hmem
  simp only [List.mem_append, List.mem_cons] at hfree
  refine ⟨ahead (texts ++ blanks), piece, behind pieces, ?_, endsWithBar_ahead _,
    eq_bar_of_head?_behind, rfl, ?_, ?_⟩
  · rw [← htext, hpieces, ← List.append_assoc, intercalate_append_cons]
  · have hnone : (blanks.map trim).filter (!·.isEmpty) = [] := List.filter_eq_nil_iff.2 hblank
    rw [clauseTexts_ahead fun other hmem => hfree other ?_, List.map_append, List.filter_append,
      hfirst, hnone, List.append_nil]
    rcases List.mem_append.1 hmem with hmem | hmem
    · exact .inl hmem
    · exact .inr (.inl hmem)
  · rw [clauseTexts_behind fun other hmem => hfree other (.inr (.inr (.inr hmem))), hthird]

/-! ## Blanks around clauses -/

theorem bar_not_mem_of_blank (hblanks : ∀ c ∈ blanks, isBlank c = true) : '|' ∉ blanks :=
  fun hmem => absurd (hblanks '|' hmem) (by decide +kernel)

/-- A text is cut before its first bar. -/
theorem exists_piece_trail (text : List Char) :
    ∃ piece trail, text = piece ++ trail ∧ '|' ∉ piece ∧ BeginsWithBar trail := by
  refine ⟨text.takeWhile (· ≠ '|'), text.dropWhile (· ≠ '|'), ?_, ?_, ?_⟩
  · rw [List.takeWhile_append_dropWhile]
  · intro hmem
    simpa using List.mem_takeWhile_imp hmem
  · intro c hc
    have hnot := List.head?_dropWhile_not (fun c => decide (c ≠ '|')) text
    rw [Option.mem_def.1 hc] at hnot
    simpa using hnot

/-- A text is cut behind its last bar. -/
theorem exists_lead_piece (text : List Char) :
    ∃ lead piece, text = lead ++ piece ∧ EndsWithBar lead ∧ '|' ∉ piece := by
  refine ⟨text.rdropWhile (· ≠ '|'), text.rtakeWhile (· ≠ '|'), ?_, ?_, ?_⟩
  · rw [List.rdropWhile_append_rtakeWhile]
  · intro c hc
    obtain ⟨front, hfront⟩ := List.getLast?_eq_some_iff.1 hc
    have hne : text.rdropWhile (· ≠ '|') ≠ [] := hfront ▸ List.concat_ne_nil c front
    have hnot := List.rdropWhile_last_not (fun c => decide (c ≠ '|')) text hne
    rw [List.getLast?_eq_some_getLast hne, Option.mem_some_iff] at hc
    rw [hc] at hnot
    simpa using hnot
  · intro hmem
    simpa using List.mem_rtakeWhile_imp hmem

theorem clauseTexts_blank_append (hblanks : ∀ c ∈ blanks, isBlank c = true) (text : List Char) :
    clauseTexts (blanks ++ text) = clauseTexts text := by
  have hbar := bar_not_mem_of_blank hblanks
  obtain ⟨piece, trail, rfl, hfree, htrail⟩ := exists_piece_trail text
  have hboth : '|' ∉ blanks ++ piece := by simp [hbar, hfree]
  rw [← List.append_assoc, clauseTexts_trail htrail, clauseTexts_trail htrail,
    clauseTexts_of_not_mem hboth, clauseTexts_of_not_mem hfree, trim_blank_append hblanks]

theorem clauseTexts_append_of_blank (hblanks : ∀ c ∈ blanks, isBlank c = true)
    (text : List Char) : clauseTexts (text ++ blanks) = clauseTexts text := by
  have hbar := bar_not_mem_of_blank hblanks
  obtain ⟨lead, piece, rfl, hlead, hfree⟩ := exists_lead_piece text
  have hboth : '|' ∉ piece ++ blanks := by simp [hbar, hfree]
  rw [List.append_assoc, clauseTexts_lead hlead, clauseTexts_lead hlead,
    clauseTexts_of_not_mem hboth, clauseTexts_of_not_mem hfree, trim_append_of_blank hblanks]

theorem foldl_startsBehind_of_blank (hblanks : ∀ c ∈ blanks, isBlank c = true) :
    blanks.foldl startsBehind true = true := by
  induction blanks with
  | nil => rfl
  | cons c blanks ih =>
    rw [List.foldl_cons, startsBehind, hblanks c List.mem_cons_self, Bool.and_true, Bool.or_true]
    exact ih fun d hmem => hblanks d (List.mem_cons_of_mem c hmem)

/-- A text that is lifted out as the bare keyword leaves the clauses around it alone. -/
theorem clauseTexts_placeholder {before after : List Char}
    (hstart : before.foldl startsBehind true = true) (hafter : BeginsWithBar after) :
    clauseTexts (before ++ placeholder ++ after) =
      clauseTexts before ++ placeholder :: clauseTexts after := by
  obtain ⟨lead, blanks, rfl, hlead, hblanks⟩ := exists_of_foldl_startsBehind hstart
  have hplaceholder : clauseTexts placeholder = [placeholder] := by decide +kernel
  rw [clauseTexts_trail hafter, List.append_assoc, clauseTexts_lead hlead,
    clauseTexts_blank_append hblanks, hplaceholder, clauseTexts_append_of_blank hblanks]
  simp only [List.append_assoc, List.cons_append, List.nil_append]

/-! ## Putting another clause in a place -/

/-- A bar-free text that is one clause and has no pattern. -/
structure Bare (piece : List Char) : Prop where
  free : '|' ∉ piece
  ne : trim piece ≠ []
  plain : hasLiteral piece = false

theorem Bare.clauseTexts_eq (hpiece : Bare piece) : clauseTexts piece = [trim piece] := by
  rw [clauseTexts_of_not_mem hpiece.free, List.filter_cons_of_pos, List.filter_nil]
  simpa using hpiece.ne

theorem clauseTexts_between (hlead : EndsWithBar lead) (htrail : BeginsWithBar trail)
    (hpiece : Bare piece) :
    clauseTexts (lead ++ (piece ++ trail)) = clauseTexts lead ++ trim piece :: clauseTexts trail := by
  rw [clauseTexts_lead hlead, clauseTexts_trail htrail, hpiece.clauseTexts_eq]
  rfl

variable {openings : List (List Char)}

/-- Where no opening is found with one clause in a place, none is found with another
clause in it. -/
theorem findOpening_between (hopenings : openings ⊆ deprecatedOpening :: modernOpenings)
    (hlead : EndsWithBar lead) (htrail : BeginsWithBar trail)
    (h : findOpening openings true (lead ++ (piece ++ trail)) = none) {other : List Char}
    (hother : findOpening openings true other = none) :
    findOpening openings true (lead ++ (other ++ trail)) = none := by
  rw [findOpening_lead hopenings hlead, findOpening_trail hopenings htrail] at h ⊢
  simp only [Option.or_eq_none_iff, Option.map_eq_none_iff] at h ⊢
  exact ⟨h.1, hother, h.2.2⟩

theorem hasLiteral_between (hlead : EndsWithBar lead) (htrail : BeginsWithBar trail)
    (h : hasLiteral (lead ++ (piece ++ trail)) = false) {other : List Char}
    (hother : hasLiteral other = false) : hasLiteral (lead ++ (other ++ trail)) = false := by
  unfold hasLiteral at h hother ⊢
  rw [Option.isSome_eq_false_iff, Option.isNone_iff_eq_none] at h hother ⊢
  exact findOpening_between (List.Subset.refl _) hlead htrail h hother

/-- The place of a clause in a text that begins with a bar is behind this bar. -/
theorem exists_of_clauseTexts_trail {earlier later : List (List Char)} {clause : List Char}
    (hbegins : BeginsWithBar text) (h : clauseTexts text = earlier ++ clause :: later) :
    ∃ lead piece trail, text = lead ++ (piece ++ trail) ∧ EndsWithBar lead ∧ BeginsWithBar trail ∧
      trim piece = clause ∧ clauseTexts lead = earlier ∧ clauseTexts trail = later ∧
        ∀ other, BeginsWithBar (lead ++ other) := by
  rcases hbegins.eq_nil_or_cons with rfl | ⟨back, rfl⟩
  · rw [clauseTexts_nil] at h
    exact absurd h.symm (by simp)
  · rw [clauseTexts_bar] at h
    obtain ⟨lead, piece, trail, rfl, hlead, htrail, hpiece, hearlier, hlater⟩ :=
      exists_of_clauseTexts h
    refine ⟨'|' :: lead, piece, trail, rfl, ?_, htrail, hpiece, ?_, hlater, ?_⟩
    · rcases hlead.eq_nil_or_concat with rfl | ⟨front, rfl⟩
      · rintro c hc
        simpa using hc.symm
      · intro c hc
        rw [← List.cons_append, List.getLast?_concat] at hc
        simpa using hc.symm
    · rw [clauseTexts_bar, hearlier]
    · rintro other _ ⟨⟩
      rfl

/-- The place of a clause in a text behind which another one starts is before the last
bar. -/
theorem exists_of_clauseTexts_start {earlier later : List (List Char)} {clause : List Char}
    (hstart : text.foldl startsBehind true = true)
    (h : clauseTexts text = earlier ++ clause :: later) :
    ∃ lead piece trail, text = lead ++ (piece ++ trail) ∧ EndsWithBar lead ∧ BeginsWithBar trail ∧
      trim piece = clause ∧ clauseTexts lead = earlier ∧ clauseTexts trail = later ∧
        ∀ other, (other ++ trail).foldl startsBehind true = true := by
  obtain ⟨front, blanks, rfl, hfront, hblanks⟩ := exists_of_foldl_startsBehind hstart
  rw [clauseTexts_append_of_blank hblanks] at h
  rcases hfront.eq_nil_or_concat with rfl | ⟨front, rfl⟩
  · rw [clauseTexts_nil] at h
    exact absurd h.symm (by simp)
  · rw [clauseTexts_append_bar, clauseTexts_nil, List.append_nil] at h
    obtain ⟨lead, piece, trail, rfl, hlead, htrail, hpiece, hearlier, hlater⟩ :=
      exists_of_clauseTexts h
    refine ⟨lead, piece, trail ++ '|' :: blanks, by simp, hlead, ?_, hpiece, hearlier, ?_, ?_⟩
    · rcases htrail.eq_nil_or_cons with rfl | ⟨back, rfl⟩
      all_goals
        rintro _ ⟨⟩
        rfl
    · rw [clauseTexts_append_bar, ← List.append_nil blanks, clauseTexts_blank_append hblanks,
        clauseTexts_nil, List.append_nil, hlater]
    · intro other
      rw [← List.append_assoc, List.foldl_append, List.foldl_cons, startsBehind, decide_eq_true rfl,
        Bool.true_or]
      exact foldl_startsBehind_of_blank hblanks

/-- The clause stands at one place of the text, and another clause can be put there; the
text is taken apart as before then. -/
def Replaceable (text : List Char) (literal : Option LiteralPattern)
    (earlier : List (List Char)) (clause : List Char) (later : List (List Char)) : Prop :=
  ∃ left piece right, text = left ++ (piece ++ right) ∧ trim piece = clause ∧
    ∀ other, Bare other → ∃ rest, extract (left ++ (other ++ right)) = .ok (rest, literal) ∧
      clauseTexts rest = earlier ++ trim other :: later

variable {before written after : List Char} {pattern : LiteralPattern}
  {earlier later others : List (List Char)} {clause : List Char}

/-- A clause behind the pattern can be replaced. -/
theorem replaceable_behind (hstart : before.foldl startsBehind true = true)
    (hbegins : BeginsWithBar after) (hafter : hasLiteral after = false)
    (hwritten : Transplants before written pattern)
    (hclauses : clauseTexts after = others ++ clause :: later) :
    Replaceable (before ++ (written ++ after)) (some pattern)
      (clauseTexts before ++ placeholder :: others) clause later := by
  obtain ⟨lead, piece, trail, rfl, hlead, htrail, hpiece, rfl, rfl, hbar⟩ :=
    exists_of_clauseTexts_trail hbegins hclauses
  refine ⟨before ++ (written ++ lead), piece, trail, by simp, hpiece, fun other hother => ?_⟩
  have hplain := hasLiteral_between hlead htrail hafter hother.plain
  refine ⟨before ++ placeholder ++ (lead ++ (other ++ trail)), ?_, ?_⟩
  · have htext : before ++ (written ++ lead) ++ (other ++ trail) =
        before ++ (written ++ (lead ++ (other ++ trail))) := by simp
    unfold extract
    rw [htext, hwritten before _ hstart (fun _ _ hnone => hnone) hplain (hbar _)]
    dsimp only
    rw [hplain, if_neg Bool.false_ne_true]
  · rw [clauseTexts_placeholder hstart (hbar _), clauseTexts_between hlead htrail hother]
    simp only [List.append_assoc, List.cons_append]

/-- A clause before the pattern can be replaced. -/
theorem replaceable_before (hstart : before.foldl startsBehind true = true)
    (hbegins : BeginsWithBar after) (hafter : hasLiteral after = false)
    (hwritten : Transplants before written pattern)
    (hclauses : clauseTexts before = earlier ++ clause :: others) :
    Replaceable (before ++ (written ++ after)) (some pattern) earlier clause
      (others ++ placeholder :: clauseTexts after) := by
  obtain ⟨lead, piece, trail, rfl, hlead, htrail, hpiece, rfl, rfl, hstarts⟩ :=
    exists_of_clauseTexts_start hstart hclauses
  refine ⟨lead, piece, trail ++ (written ++ after), by simp, hpiece, fun other hother => ?_⟩
  have hstarts : (lead ++ (other ++ trail)).foldl startsBehind true = true := by
    rw [← List.append_assoc]
    exact hstarts (lead ++ other)
  have hnone : ∀ openings ∈ [modernOpenings, [deprecatedOpening]],
      findOpening openings true (lead ++ (piece ++ trail)) = none →
        findOpening openings true (lead ++ (other ++ trail)) = none := by
    obtain ⟨hmodern, hdeprecated⟩ := hasLiteral_eq_false_iff.1 hother.plain
    rw [List.forall_mem_cons, List.forall_mem_singleton]
    exact ⟨fun hnone => findOpening_between (by decide) hlead htrail hnone hmodern,
      fun hnone => findOpening_between (by decide) hlead htrail hnone hdeprecated⟩
  refine ⟨lead ++ (other ++ trail) ++ placeholder ++ after, ?_, ?_⟩
  · have htext : lead ++ (other ++ (trail ++ (written ++ after))) =
        lead ++ (other ++ trail) ++ (written ++ after) := by simp
    unfold extract
    rw [htext, hwritten _ after hstarts hnone hafter hbegins]
    dsimp only
    rw [hafter, if_neg Bool.false_ne_true]
  · rw [clauseTexts_placeholder hstarts hbegins, clauseTexts_between hlead htrail hother]
    simp only [List.append_assoc, List.cons_append]

/-- Every clause but the pattern itself can be replaced. -/
theorem replaceable_of_extract {literal : Option LiteralPattern}
    (h : extract text = .ok (rest, literal))
    (hclauses : clauseTexts rest = earlier ++ clause :: later) (hclause : clause ≠ placeholder) :
    Replaceable text literal earlier clause later := by
  cases literal with
  | none =>
    obtain ⟨hnone, rfl⟩ := find?_of_extract h
    obtain ⟨lead, piece, trail, rfl, hlead, htrail, hpiece, rfl, rfl⟩ :=
      exists_of_clauseTexts hclauses
    refine ⟨lead, piece, trail, rfl, hpiece, fun other hother => ?_⟩
    have hplain := hasLiteral_between hlead htrail (hasLiteral_eq_false_of_find? hnone) hother.plain
    refine ⟨_, ?_, clauseTexts_between hlead htrail hother⟩
    unfold extract
    rw [find?_eq_none_iff_hasLiteral.2 hplain]
  | some literal =>
    obtain ⟨before, after, hfind, hafter, rfl⟩ := exists_find?_of_extract h
    obtain ⟨written, rfl, hstart, hbegins, hwritten⟩ := exists_of_find? hfind
    rw [clauseTexts_placeholder hstart hbegins] at hclauses
    rcases List.append_eq_append_iff.1 hclauses with ⟨others, rfl, hafters⟩ | ⟨others, hbefore, hlater⟩
    · -- the clause stands behind the pattern
      cases others with
      | nil => exact absurd (List.cons.inj hafters).1.symm hclause
      | cons head behind =>
        obtain ⟨rfl, hbehind⟩ := List.cons.inj hafters
        exact replaceable_behind hstart hbegins hafter hwritten hbehind
    · -- the clause stands before the pattern
      cases others with
      | nil => exact absurd (List.cons.inj hlater).1 hclause
      | cons head behind =>
        obtain ⟨rfl, rfl⟩ := List.cons.inj hlater
        exact replaceable_before hstart hbegins hafter hwritten hbefore

end Rule

end FieldRules
