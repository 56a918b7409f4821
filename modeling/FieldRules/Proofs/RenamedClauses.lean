import FieldRules.Proofs.ClauseTexts

/-!
# Chains with another keyword in a clause

The keyword of a clause stands at the start of its text.  With another keyword there, the
chain is read as before, except for the name of this clause: its parameters, its message
text, the other clauses and the pattern stay what they were.

* `Keyword`: the words that may be put there.
* `Clause.read_rename`: a clause with another keyword.
* `Chain.parse_rename`: a chain with another keyword in one clause.
-/

namespace FieldRules

namespace Rule

open Text Literal

variable {text word other tail rest before after blanks : List Char} {clause : Clause}

/-! ## Text in front of what is looked for -/

theorem splitAt?_append_of_not_mem {w : Char} {ws : List Char} (hw : w ∉ text) (rest : List Char) :
    splitAt? (w :: ws) (text ++ rest) =
      (splitAt? (w :: ws) rest).map fun (before, after) => (text ++ before, after) := by
  induction text with
  | nil => exact (Option.map_id' ..).symm
  | cons c text ih =>
    rw [List.mem_cons, not_or] at hw
    rw [List.cons_append, splitAt?, dropLead?, if_neg hw.1, ih hw.2, Option.map_map]
    rfl

theorem splitOnce_append_of_forall {isSep : Char → Bool} (htext : ∀ c ∈ text, isSep c = false)
    (rest : List Char) :
    splitOnce isSep (text ++ rest) =
      (splitOnce isSep rest).map fun (before, after) => (text ++ before, after) := by
  induction text with
  | nil => exact (Option.map_id' ..).symm
  | cons c text ih =>
    have hrest := ih fun d hmem => htext d (List.mem_cons_of_mem c hmem)
    rw [List.cons_append, splitOnce, htext c List.mem_cons_self, if_neg Bool.false_ne_true, hrest,
      Option.map_map]
    rfl

theorem prefix_of_splitOnce {isSep : Char → Bool}
    (h : splitOnce isSep text = some (before, after)) : before <+: text := by
  induction text generalizing before with
  | nil => cases h
  | cons c text ih =>
    rw [splitOnce] at h
    split at h
    · cases h
      exact List.nil_prefix
    · obtain ⟨⟨front, back⟩, hrest, heq⟩ := Option.map_eq_some_iff.1 h
      cases heq
      exact List.cons_prefix_cons.2 ⟨rfl, ih hrest⟩

theorem prefix_of_splitMessage {alt : Option (List Char)} (h : splitMessage text = (before, alt)) :
    before <+: text := by
  unfold splitMessage at h
  split at h
  · cases h
    exact List.nil_prefix
  · split at h
    · next head _ hsplit =>
      cases h
      rw [eq_append_of_splitAt? hsplit, List.append_assoc]
      exact List.prefix_append _ _
    · cases h
      exact List.prefix_rfl

/-! ## Keywords -/

/-- A word that names a rule and cannot be taken for the start of a message text or of a
pattern. -/
structure Keyword (word : List Char) : Prop where
  ne : word ≠ []
  free : ':' ∉ word ∧ '|' ∉ word
  trimmed : trim word = word
  opens : ∀ opening ∈ altMarker :: deprecatedOpening :: modernOpenings, opening.head? ≠ word.head?

theorem Keyword.not_prefix (hword : Keyword word) {opening : List Char}
    (hopening : opening ∈ altMarker :: deprecatedOpening :: modernOpenings) (rest : List Char) :
    ¬ opening <+: word ++ rest := by
  have hne : ∀ opening ∈ altMarker :: deprecatedOpening :: modernOpenings, opening ≠ [] := by decide
  obtain ⟨c, opening, rfl⟩ := List.exists_cons_of_ne_nil (hne opening hopening)
  obtain ⟨d, word, rfl⟩ := List.exists_cons_of_ne_nil hword.ne
  intro hbegin
  refine hword.opens _ hopening ?_
  rw [(List.cons_prefix_cons.1 hbegin).1]
  rfl

/-- A text that is a word up to blanks begins with the word if it begins with no blank. -/
theorem exists_of_trim (htrim : trim text = word)
    (hfirst : NoBlankFirst text) :
    ∃ blanks, text = word ++ blanks ∧ ∀ c ∈ blanks, isBlank c = true := by
  obtain ⟨front, back, htext, hfront, hback⟩ := exists_eq_trim text
  rw [htrim] at htext
  cases front with
  | nil => exact ⟨back, htext, hback⟩
  | cons c front =>
    have hblank := hfront c List.mem_cons_self
    rw [htext] at hfirst
    rw [hfirst c rfl] at hblank
    cases hblank

theorem splitMessage_keyword (hword : Keyword word) (tail : List Char) :
    splitMessage (word ++ tail) =
      match splitAt? (':' :: altMarker) tail with
      | some (head, alt) => (word ++ head, some alt)
      | none => (word ++ tail, none) := by
  unfold splitMessage
  rw [dropLead?_eq_none_iff.2 (hword.not_prefix List.mem_cons_self tail),
    splitAt?_append_of_not_mem hword.free.1]
  cases splitAt? (':' :: altMarker) tail <;> rfl

/-- The name of a clause that begins with a word, and its parameters. -/
theorem splitOnce_keyword (hword : Keyword word) (tail : List Char) :
    splitOnce (· = ':') (word ++ tail) =
      (splitOnce (· = ':') tail).map fun (before, after) => (word ++ before, after) := by
  refine splitOnce_append_of_forall ?_ tail
  intro c hc
  rw [decide_eq_false_iff_not]
  rintro rfl
  exact hword.free.1 hc

theorem Keyword.noBlankFirst (hword : Keyword word) (rest : List Char) :
    NoBlankFirst (word ++ rest) := by
  obtain ⟨c, word, rfl⟩ := List.exists_cons_of_ne_nil hword.ne
  exact (trim_eq_self_iff.1 hword.trimmed).1

/-- Blanks behind a word stay blanks behind another word. -/
theorem Keyword.trim_append (hword : Keyword word) (hother : Keyword other)
    (htrim : trim (word ++ tail) = word) : trim (other ++ tail) = other := by
  obtain ⟨blanks, heq, hblanks⟩ := exists_of_trim htrim (hword.noBlankFirst tail)
  rw [List.append_cancel_left heq, trim_append_of_blank hblanks, hother.trimmed]

theorem Keyword.trim_eq_self (hother : Keyword other)
    (htrim : trim (word ++ tail) = word ++ tail) : trim (other ++ tail) = other ++ tail := by
  rw [trim_eq_self_iff] at htrim ⊢
  refine ⟨hother.noBlankFirst tail, noBlankLast_append (trim_eq_self_iff.1 hother.trimmed).2 ?_⟩
  intro c hc
  refine htrim.2 c ?_
  rw [List.getLast?_append, Option.mem_def.1 hc, Option.some_or]
  rfl

/-- What stands behind a keyword says where the name of the clause ends, what its
parameters are and what its message text is. -/
theorem Clause.exists_read_keyword (tail : List Char) :
    ∃ ending params alt, ∀ word, Keyword word →
      Clause.read (word ++ tail) = ⟨String.ofList (trim (word ++ ending)), params, alt⟩ := by
  obtain ⟨ending, alt, hmessage⟩ : ∃ ending alt, ∀ word, Keyword word →
      splitMessage (word ++ tail) = (word ++ ending, alt) := by
    cases hsplit : splitAt? (':' :: altMarker) tail with
    | some found =>
      refine ⟨found.1, some found.2, fun word hword => ?_⟩
      rw [splitMessage_keyword hword, hsplit]
    | none =>
      refine ⟨tail, none, fun word hword => ?_⟩
      rw [splitMessage_keyword hword, hsplit]
  cases honce : splitOnce (· = ':') ending with
  | some pair =>
    refine ⟨pair.1, splitParams pair.2, alt.map String.ofList, fun word hword => ?_⟩
    unfold Clause.read
    rw [hmessage word hword]
    dsimp only
    rw [splitOnce_keyword hword, honce]
    rfl
  | none =>
    refine ⟨ending, [], alt.map String.ofList, fun word hword => ?_⟩
    unfold Clause.read
    rw [hmessage word hword]
    dsimp only
    rw [splitOnce_keyword hword, honce]
    rfl

/-- A clause with another keyword. -/
theorem Clause.read_rename (hword : Keyword word) (hother : Keyword other)
    (hname : (Clause.read (word ++ tail)).name = String.ofList word) :
    Clause.read (other ++ tail) =
      { Clause.read (word ++ tail) with name := String.ofList other } := by
  obtain ⟨ending, params, alt, hread⟩ := Clause.exists_read_keyword tail
  rw [hread word hword] at hname ⊢
  rw [hread other hother, hword.trim_append hother (String.ofList_injective hname)]

/-- The keyword of a clause stands at the start of its text. -/
theorem Clause.exists_of_read (hfirst : NoBlankFirst text)
    (hname : (Clause.read text).name = String.ofList word) : ∃ tail, text = word ++ tail := by
  have hbegin : ∃ name, name <+: text ∧ trim name = word := by
    unfold Clause.read at hname
    cases hmessage : splitMessage text with
    | mk head alt =>
      have hhead := prefix_of_splitMessage hmessage
      rw [hmessage] at hname
      dsimp only at hname
      cases honce : splitOnce (· = ':') head with
      | some pair =>
        rw [honce] at hname
        exact ⟨pair.1, (prefix_of_splitOnce honce).trans hhead, String.ofList_injective hname⟩
      | none =>
        rw [honce] at hname
        exact ⟨head, hhead, String.ofList_injective hname⟩
  obtain ⟨name, hprefix, htrim⟩ := hbegin
  obtain ⟨blanks, rfl, -⟩ := exists_of_trim htrim (hfirst.of_prefix hprefix)
  obtain ⟨behind, rfl⟩ := hprefix
  exact ⟨blanks ++ behind, by rw [List.append_assoc]⟩

/-! ## A clause among others -/

theorem not_mem_of_mem_clauseTexts (hmem : text ∈ clauseTexts rest) : '|' ∉ text := by
  unfold clauseTexts at hmem
  obtain ⟨piece, hpiece, rfl⟩ := List.mem_map.1 (List.mem_filter.1 hmem).1
  obtain ⟨front, back, heq, -, -⟩ := exists_eq_trim piece
  refine fun hbar => not_mem_of_mem_split hpiece ?_
  rw [heq]
  simp [hbar]

/-- A text that starts with a keyword is a clause without a pattern. -/
theorem Keyword.bare (hword : Keyword word) (hblanks : ∀ c ∈ blanks, isBlank c = true)
    (hfree : '|' ∉ tail) : Bare (blanks ++ (word ++ tail)) := by
  have hbar : '|' ∉ word ++ tail := by simp [hword.free.2, hfree]
  obtain ⟨c, chars, rfl⟩ := List.exists_cons_of_ne_nil hword.ne
  have hfirst : NoBlankFirst (c :: chars) := (trim_eq_self_iff.1 hword.trimmed).1
  have hquiet : Quiet (c :: chars ++ tail) :=
    ⟨hbar, ⟨c, rfl, hfirst c rfl⟩, fun opening hopening =>
      hword.not_prefix (List.mem_cons_of_mem _ hopening) tail⟩
  refine ⟨?_, ?_, ?_⟩
  · rw [List.mem_append, not_or]
    exact ⟨bar_not_mem_of_blank hblanks, hbar⟩
  · rw [trim_blank_append hblanks]
    intro hnil
    obtain ⟨front, back, heq, hfront, hback⟩ := exists_eq_trim (c :: chars ++ tail)
    rw [hnil, List.nil_append] at heq
    have hmem : c ∈ front ++ back := by
      rw [← heq]
      exact List.mem_cons_self
    have hblank : isBlank c = true := (List.mem_append.1 hmem).elim (hfront c) (hback c)
    rw [hfirst c rfl] at hblank
    cases hblank
  · have hopening : findOpening (deprecatedOpening :: modernOpenings) true
        (c :: chars ++ tail ++ []) = _ := findOpening_quiet (List.Subset.refl _) hquiet nofun
    rw [List.append_nil] at hopening
    unfold hasLiteral
    rw [findOpening_blanks (List.Subset.refl _) hblanks, hopening]
    rfl

theorem checkRange_eq_ok_iff {clause checked : Clause} :
    clause.checkRange = .ok checked ↔
      checked = clause ∧ ((rangeSyntax clause.name).isSome = true → clause.params.length = 2) := by
  unfold Clause.checkRange
  cases rangeSyntax clause.name with
  | none => simp [eq_comm]
  | some expected =>
    dsimp only
    split
    · next hlength => simp [hlength, eq_comm]
    · next hlength => simp [hlength]

theorem exists_of_mapM_eq_ok {ε α β : Type} {f : α → Except ε β} {items : List α}
    {earlier later : List β} {result : β} (h : items.mapM f = .ok (earlier ++ result :: later)) :
    ∃ before item after, items = before ++ item :: after ∧ before.mapM f = .ok earlier ∧
      f item = .ok result ∧ after.mapM f = .ok later := by
  induction items generalizing earlier with
  | nil =>
    injection h with hnil
    exact absurd hnil.symm (by simp)
  | cons head items ih =>
    rw [List.mapM_cons] at h
    obtain ⟨first, hfirst, h⟩ := bind_eq_ok h
    obtain ⟨others, hothers, h⟩ := bind_eq_ok h
    injection h with heq
    cases earlier with
    | nil =>
      obtain ⟨rfl, rfl⟩ := List.cons.inj heq
      exact ⟨[], head, items, rfl, rfl, hfirst, hothers⟩
    | cons found earlier =>
      obtain ⟨rfl, rfl⟩ := List.cons.inj heq
      obtain ⟨before, item, after, rfl, hbefore, hitem, hafter⟩ := ih hothers
      refine ⟨head :: before, item, after, rfl, ?_, hitem, hafter⟩
      rw [List.mapM_cons, hfirst, hbefore]
      rfl

/-- A chain with another keyword in one clause is read as the same chain, with another
name of this clause. -/
theorem Chain.parse_rename {rules : String} {chain : Chain} {earlier later : List Clause}
    (hparse : Chain.parse rules = .ok chain) (hclauses : chain.clauses = earlier ++ clause :: later)
    {word : String} (hword : Keyword word.toList) (hname : clause.name = word)
    (hpattern : word.toList ≠ placeholder) :
    ∃ left right, rules = left ++ word ++ right ∧ ∀ other : String, Keyword other.toList →
      ((rangeSyntax other).isSome = true → clause.params.length = 2) →
      (other = requiredKeyword ↔ word = requiredKeyword) →
      Chain.parse (left ++ other ++ right) =
        .ok { chain with clauses := earlier ++ { clause with name := other } :: later } := by
  obtain ⟨rest, hextract, hrest, hrequired⟩ := Chain.parse_eq_ok_iff.1 hparse
  rw [hclauses] at hrest
  obtain ⟨before, text, after, htexts, hbefore, htext, hafter⟩ := exists_of_mapM_eq_ok hrest
  obtain ⟨rfl, -⟩ := checkRange_eq_ok_iff.1 htext
  -- the clause that is put in place of the pattern has another name
  have hclause : text ≠ placeholder := by
    rintro rfl
    have hplaceholder : (Clause.read placeholder).name = String.ofList placeholder := by
      decide +kernel
    rw [hname] at hplaceholder
    exact hpattern (by rw [hplaceholder, String.toList_ofList])
  obtain ⟨left, piece, right, hrules, rfl, hother⟩ := replaceable_of_extract hextract htexts hclause
  obtain ⟨front, back, hpiece, hfront, hback⟩ := exists_eq_trim piece
  obtain ⟨tail, htail⟩ := Clause.exists_of_read (trim_eq_self_iff.1 (trim_trim piece)).1
    (hname.trans (String.ofList_toList (s := word)).symm)
  have htrimmed : trim (word.toList ++ tail) = word.toList ++ tail := by rw [← htail, trim_trim]
  have hfree : '|' ∉ tail ++ back := by
    have hclause : '|' ∉ trim piece :=
      not_mem_of_mem_clauseTexts (by rw [htexts]; exact List.mem_append_cons_self)
    rw [htail, List.mem_append, not_or] at hclause
    rw [List.mem_append, not_or]
    exact ⟨hclause.2, bar_not_mem_of_blank hback⟩
  rw [htail] at hpiece hname ⊢
  refine ⟨String.ofList (left ++ front), String.ofList (tail ++ (back ++ right)), ?_, ?_⟩
  · refine String.toList_injective ?_
    rw [hrules, hpiece]
    simp only [String.toList_append, String.toList_ofList, List.append_assoc]
  intro other hkeyword hrange hneeded
  obtain ⟨rest, hextract, hnew⟩ := hother _ (hkeyword.bare hfront hfree)
  have htrim : trim (front ++ (other.toList ++ (tail ++ back))) = other.toList ++ tail := by
    rw [trim_blank_append hfront, ← List.append_assoc, trim_append_of_blank hback,
      hkeyword.trim_eq_self htrimmed]
  have hread : Clause.read (other.toList ++ tail) =
      { Clause.read (word.toList ++ tail) with name := other } := by
    have hrename := Clause.read_rename hword hkeyword
      (hname.trans (String.ofList_toList (s := word)).symm)
    rwa [String.ofList_toList] at hrename
  refine Chain.parse_eq_ok_iff.2 ⟨rest, ?_, ?_, ?_⟩
  · dsimp only
    rw [← hextract]
    simp only [String.toList_append, String.toList_ofList, List.append_assoc]
  · have hchecked : (Clause.read (other.toList ++ tail)).checkRange =
        .ok { Clause.read (word.toList ++ tail) with name := other } := by
      rw [hread, checkRange_eq_ok_iff]
      exact ⟨rfl, hrange⟩
    unfold parseClauses
    rw [hnew, htrim, List.mapM_append, hbefore, List.mapM_cons, hchecked, hafter]
    rfl
  · have hneeded : (other == requiredKeyword) = (word == requiredKeyword) := by
      rw [Bool.eq_iff_iff, beq_iff_eq, beq_iff_eq]
      exact hneeded
    rw [hrequired, hclauses, htail]
    simp only [List.any_append, List.any_cons, hname, hneeded]

end Rule

end FieldRules
