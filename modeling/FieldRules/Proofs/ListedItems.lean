import Mathlib.Tactic.FinCases
import FieldRules.Proofs.CountedCharacters

/-!
# Rules that list items

The items of a list go into a pattern for the whole text: each is escaped, and bars stand
between them.  Read again, the text of the pattern gives back the items character for
character, whatever they are.

* `readAlternatives_escape`, `readAlternatives_choiceText`: escaped words are read as they are.
* `read?_listText`: the text of a list is read as the choice between its items.
* `occursIn_list_iff`: the texts in which the pattern of a list occurs.
* `Rule.accepts_iff_listed`: what the rules accept.
-/

namespace FieldRules

open Unicode CaseFold

namespace Pattern

variable {e : Expr} {es elements : List Expr} {alternatives : List (List Expr)} {fuel : Nat}
  {names words : List (List Char)} {rest : List Char}

/-! ## Reading escaped words -/

theorem readEscape_of_isMeta {c : Char} (hmeta : isMeta c = true) (rest : List Char) :
    readEscape false (c :: rest) = some (.char c, rest) := by
  simp only [isMeta, decide_eq_true_eq] at hmeta
  fin_cases hmeta <;> rfl

/-- An escaped character is read as itself. -/
theorem readAlternatives_escapeChar (c : Char) :
    readAlternatives (fuel + 1) false names alternatives elements (escapeChar c ++ rest) =
      readAlternatives fuel false names alternatives (.char c :: elements) rest := by
  unfold escapeChar
  split
  · next hmeta =>
    rw [List.cons_append, List.singleton_append, readAlternatives]
    simp only [skipLayout, Bool.false_eq_true, if_false]
    rw [readEscape_of_isMeta hmeta]
    rfl
  · next hmeta =>
    rw [List.singleton_append, readAlternatives]
    simp only [skipLayout, Bool.false_eq_true, if_false]
    -- the other cases are about characters that would have been escaped
    split
    case h_14 heq =>
      cases heq
      rfl
    all_goals
      next heq => cases heq <;> exact absurd rfl hmeta

theorem readAlternatives_escape (word : List Char) (elements : List Expr) :
    readAlternatives (fuel + word.length) false names alternatives elements
        (escape word ++ rest) =
      readAlternatives fuel false names alternatives
        ((word.map .char).reverse ++ elements) rest := by
  induction word generalizing elements with
  | nil => rfl
  | cons c word ih =>
    rw [escape, List.flatMap_cons, List.append_assoc, List.length_cons, ← Nat.add_assoc,
      readAlternatives_escapeChar, ← escape, ih]
    simp

theorem sequence_append_singleton (hne : es ≠ []) (e : Expr) :
    sequence (es ++ [e]) = .seq e (sequence es) := by
  obtain ⟨last, earlier, rfl⟩ := List.exists_cons_of_ne_nil hne
  rw [List.cons_append, sequence, sequence, List.foldl_append]
  rfl

/-- The elements of a sequence are gathered from the last one on. -/
theorem sequence_reverse (es : List Expr) : sequence es.reverse = .seqOf es := by
  induction es with
  | nil => rfl
  | cons e es ih =>
    cases es with
    | nil => rfl
    | cons e' es =>
      rw [List.reverse_cons, sequence_append_singleton (by simp), ih]
      rfl

theorem choice_append_singleton (hne : alternatives ≠ []) (es : List Expr) :
    choice (alternatives ++ [es]) = .alt (sequence es) (choice alternatives) := by
  obtain ⟨last, earlier, rfl⟩ := List.exists_cons_of_ne_nil hne
  rw [List.cons_append, choice, choice, List.foldl_append]
  rfl

/-- So are the alternatives of a choice. -/
theorem choice_reverse (words : List (List Char)) :
    choice (words.map fun word => (word.map .char).reverse).reverse =
      .altOf (words.map .word) := by
  induction words with
  | nil => rfl
  | cons word words ih =>
    cases words with
    | nil => exact sequence_reverse _
    | cons word' words =>
      rw [List.map_cons, List.reverse_cons, choice_append_singleton (by simp), ih,
        sequence_reverse]
      rfl

/-! ## Choices between words -/

/-- The text of a choice between words. -/
def choiceText (words : List (List Char)) : List Char :=
  ['|'].intercalate (words.map escape)

theorem choiceText_singleton (word : List Char) : choiceText [word] = escape word :=
  List.intercalate_singleton

theorem choiceText_cons_cons (word word' : List Char) (words : List (List Char)) :
    choiceText (word :: word' :: words) = escape word ++ '|' :: choiceText (word' :: words) := by
  simp [choiceText, List.intercalate_cons_cons]

/-- The steps that the reading of a choice takes, with what ends it: one for each character and
one behind each word. -/
def choiceSteps (words : List (List Char)) : Nat :=
  words.flatten.length + words.length

/-- A choice between words is read up to the parenthesis behind it. -/
theorem readAlternatives_choiceText (hne : words ≠ []) (alternatives : List (List Expr)) :
    readAlternatives (fuel + choiceSteps words) false names alternatives []
        (choiceText words ++ ')' :: rest) =
      some (choice ((words.map fun word => (word.map .char).reverse).reverse ++ alternatives),
        names, ')' :: rest) := by
  induction words generalizing alternatives with
  | nil => exact absurd rfl hne
  | cons word words ih =>
    cases words with
    | nil =>
      have hsteps : fuel + choiceSteps [word] = (fuel + 1) + word.length := by
        simp [choiceSteps]
        omega
      rw [choiceText_singleton, hsteps, readAlternatives_escape, readAlternatives]
      simp [skipLayout]
    | cons word' words =>
      have hsteps : fuel + choiceSteps (word :: word' :: words) =
          (fuel + choiceSteps (word' :: words) + 1) + word.length := by
        simp [choiceSteps]
        omega
      rw [choiceText_cons_cons, List.append_assoc, List.cons_append, hsteps,
        readAlternatives_escape, readAlternatives]
      simp only [skipLayout, Bool.false_eq_true, if_false]
      rw [ih (List.cons_ne_nil _ _)]
      simp

theorem length_le_length_escape (word : List Char) : word.length ≤ (escape word).length := by
  induction word with
  | nil => exact Nat.le_refl 0
  | cons c word ih =>
    have hchar : 1 ≤ (escapeChar c).length := by
      unfold escapeChar
      split <;> simp
    rw [escape, List.flatMap_cons, ← escape, List.length_append, List.length_cons]
    omega

/-- Reading takes no more steps than there are characters. -/
theorem choiceSteps_le_length (hne : words ≠ []) :
    choiceSteps words ≤ (choiceText words).length + 1 := by
  induction words with
  | nil => exact absurd rfl hne
  | cons word words ih =>
    have hword := length_le_length_escape word
    cases words with
    | nil => simpa [choiceSteps, choiceText_singleton] using hword
    | cons word' words =>
      have hrest := ih (List.cons_ne_nil _ _)
      rw [choiceText_cons_cons, List.length_append, List.length_cons]
      simp only [choiceSteps, List.flatten_cons, List.length_append, List.length_cons] at hrest ⊢
      omega

/-! ## Nesting -/

/-- What stands around a pattern adds at most one level. -/
theorem depth_le_succ (e : Expr) (chain other : Chain) : e.depth chain ≤ e.depth other + 1 := by
  cases e with
  | seq first second | alt first second =>
    simp only [Expr.depth, levelUnless]
    split <;> split <;> omega
  | empty | char | escapedByte | dot | anchor | change | cls | rep | capture | group =>
    exact Nat.le_succ _

theorem depth_seqOf_le {n : Nat} (hdepth : ∀ e ∈ es, e.depth .seq ≤ n) :
    (Expr.seqOf es).depth .seq ≤ n :=
  Expr.seqOf_induction (Nat.zero_le n)
    (fun hfirst hsecond => Nat.max_le.2 ⟨hfirst, hsecond⟩) hdepth

theorem depth_altOf_le {n : Nat} (hdepth : ∀ e ∈ es, e.depth .alt ≤ n) :
    (Expr.altOf es).depth .alt ≤ n :=
  Expr.altOf_induction (Nat.zero_le n)
    (fun hleft hright => Nat.max_le.2 ⟨hleft, hright⟩) hdepth

/-- A choice between words is nested no deeper than patterns may be, however many they are. -/
theorem depth_choice_le (words : List (List Char)) :
    (Expr.whole (.plainChoice (words.map .word))).depth .none ≤ depthLimit := by
  have hword : ∀ e ∈ words.map Expr.word, e.depth .alt ≤ 1 := by
    rw [List.forall_mem_map]
    intro word _
    have hchars : (Expr.word word).depth .seq ≤ 0 := by
      apply depth_seqOf_le
      rw [List.forall_mem_map]
      exact fun c _ => Nat.le_refl 0
    exact (depth_le_succ _ .alt .seq).trans (Nat.succ_le_succ hchars)
  have hchoice : (Expr.altOf (words.map .word)).depth .none ≤ 2 :=
    (depth_le_succ _ .none .alt).trans (Nat.succ_le_succ (depth_altOf_le hword))
  simp only [Expr.whole, Expr.plainChoice, Expr.depth, levelUnless, depthLimit]
  simp
  omega

/-! ## The text of a list -/

/-- The text of a pattern for one of the items as the whole text. -/
def listText (items : List String) : List Char :=
  "^(?:".toList ++ choiceText (items.map String.toList) ++ ")$".toList

theorem read?_choiceText (hne : words ≠ []) :
    Expr.read? ("^(?:".toList ++ choiceText words ++ ")$".toList) =
      some (.whole (.plainChoice (words.map .word))) := by
  have hlength := choiceSteps_le_length hne
  obtain ⟨fuel, hfuel⟩ : ∃ fuel, ("^(?:".toList ++ choiceText words ++ ")$".toList).length + 1 =
      fuel + 2 + choiceSteps words + 1 + 1 := by
    refine ⟨(choiceText words).length + 3 - choiceSteps words, ?_⟩
    simp
    omega
  have htext : "^(?:".toList ++ choiceText words ++ ")$".toList =
      '^' :: '(' :: '?' :: ':' :: (choiceText words ++ [')', '$']) := by
    simp
  have hstart : ∀ rest, readGroupStart false ('?' :: ':' :: rest) = some (.group [], rest) :=
    fun _ => rfl
  -- what is left behind the group: its parenthesis, and the anchor at the end
  have hend : ∀ fuel e, readAlternatives (fuel + 2) false [] [] [e, .anchor .lineStart] ['$'] =
      some (.whole e, [], []) := by
    intro fuel e
    rw [readAlternatives]
    rfl
  rw [Expr.read?, hfuel, htext, readAlternatives]
  simp only [skipLayout, Bool.false_eq_true, if_false]
  rw [readAlternatives]
  simp only [skipLayout, Bool.false_eq_true, if_false, hstart, Option.bind_eq_bind,
    Option.bind_some, verboseAfter, List.find?_nil]
  rw [readAlternatives_choiceText hne, List.append_nil, choice_reverse]
  have hdrop : Text.dropLead? [')'] [')', '$'] = some ['$'] := rfl
  simp only [Option.bind_some, hdrop]
  rw [Nat.add_right_comm, hend, Option.bind_some]
  have hdepth : (Expr.whole (.group [] (.altOf (words.map .word)))).depth .none ≤ depthLimit :=
    depth_choice_le words
  simp only [List.isEmpty_nil, Bool.true_and, decide_eq_true hdepth, if_true]
  rfl

theorem source_seqOf (es : List Expr) : (Expr.seqOf es).source = es.flatMap Expr.source := by
  induction es with
  | nil => rfl
  | cons e es ih =>
    cases es with
    | nil => exact (List.append_nil _).symm
    | cons e' es =>
      rw [List.flatMap_cons, ← ih]
      rfl

/-- A choice between words is written with bars between them. -/
theorem source_choice (words : List (List Char)) :
    (Expr.altOf (words.map .word)).source = choiceText words := by
  induction words with
  | nil => rfl
  | cons word words ih =>
    have hword : (Expr.word word).source = escape word := by
      rw [Expr.word, source_seqOf, List.flatMap_map, escape]
      rfl
    cases words with
    | nil => rw [choiceText_singleton, ← hword, List.map_singleton, Expr.altOf]
    | cons word' words =>
      rw [choiceText_cons_cons, ← ih, ← hword]
      show (Expr.word word).source ++ ['|'] ++ _ = _
      rw [List.append_assoc, List.singleton_append]

/-- What is compiled of a list is what its text is read as. -/
theorem read?_listText {items : List String} (hne : items ≠ []) :
    Pattern.read? (listText items) {} = Pattern.build? (Rule.Patterns.list items) := by
  have hlist : Rule.Patterns.list items =
      .whole (.plainChoice ((items.map String.toList).map .word)) := by
    rw [List.map_map]
    rfl
  have hsource : (Rule.Patterns.list items).source = listText items := by
    rw [hlist, listText, ← source_choice]
    simp [Expr.whole, Expr.plainChoice, Expr.source, Anchor.source, changesSource]
  have hread : Expr.read? (listText items) = some (Rule.Patterns.list items) := by
    rw [hlist]
    exact read?_choiceText (by simpa using hne)
  rw [Pattern.read?, Pattern.build?, hsource, hread]
  rfl

/-! ## Texts in lists -/

/-- The texts are the same character by character, but for the case of letters. -/
def SameButCase (u w : List Char) : Prop :=
  List.Forall₂ (fun c d => simpleFold c = simpleFold d) u w

instance (u w : List Char) : Decidable (SameButCase u w) :=
  inferInstanceAs (Decidable (List.Forall₂ (fun c d => simpleFold c = simpleFold d) u w))

/-- The text is one of the items, but for case. -/
def Listed (items : List String) (text : String) : Prop :=
  ∃ item ∈ items, SameButCase item.toList text.toList

instance (items : List String) (text : String) : Decidable (Listed items text) :=
  inferInstanceAs (Decidable (∃ item ∈ items, SameButCase item.toList text.toList))

theorem isPlain_list (items : List String) :
    (Expr.plainChoice (items.map Rule.Patterns.word)).isPlain = true := by
  have hword : ∀ item ∈ items, (Rule.Patterns.word item).isPlain = true := by
    intro item _
    apply Expr.isPlain_seqOf
    rw [List.forall_mem_map]
    exact fun c _ => rfl
  exact Expr.isPlain_altOf (List.forall_mem_map.2 hword)

/-- The pattern of a list occurs in its items, in any case, and in no other text. -/
theorem occursIn_list_iff {items : List String} {p : Pattern} (hne : items ≠ [])
    (hbuild : Pattern.build? (Rule.Patterns.list items) = some p) (text : String) :
    p.occursIn text = true ↔ Listed items text := by
  rw [Expr.occursIn_iff_mem_words (isPlain_list items) hbuild]
  show text.toList ∈ (Expr.altOf (items.map Rule.Patterns.word)).words ↔ _
  rw [Expr.mem_words_altOf_iff (by simpa using hne)]
  simp only [List.mem_map, exists_exists_and_eq_and, Rule.Patterns.word, Expr.mem_words_word_iff]
  rfl

end Pattern

/-! ## The rules -/

namespace Rule

open Pattern

variable {clause other : Clause} {literal : Option LiteralPattern} {entry negated : Entry}
  {v : Validator} {negative : Bool}

/-- A list rule is built of at least one item, if the pattern of its items compiles. -/
theorem resolve_list_iff (hentry : findEntry (normalize clause.name) = some entry)
    (hfamily : entry.family = .list negative) :
    clause.resolve literal = .ok v ↔ clause.params ≠ [] ∧
      ∃ p, Pattern.build? (Patterns.list clause.params) = some p ∧
        v = ⟨entry.name, entry.key, [", ".intercalate clause.params], clause.alt,
          .test (.pattern p negative false)⟩ := by
  have hadmits : Arity.atLeastOne.admits clause.params.length = true ↔ clause.params ≠ [] := by
    rw [← List.length_pos_iff]
    exact decide_eq_true_iff
  have hmade : entry.build clause literal = do
      let params ← expectParams entry.name clause.params .atLeastOne
      let p ← buildPattern entry.name (Patterns.list params)
      return ⟨entry.name, entry.key, [", ".intercalate params], none,
        .test (.pattern p negative false)⟩ := by
    unfold Entry.build
    dsimp only
    rw [hfamily]
  rw [resolve_eq_of_findEntry hentry, hmade]
  constructor
  · intro h
    obtain ⟨built, hbuilt, rfl⟩ := map_eq_ok h
    obtain ⟨params, hparams, hbuilt⟩ := bind_eq_ok hbuilt
    obtain ⟨p, hp, hbuilt⟩ := bind_eq_ok hbuilt
    obtain ⟨rfl, hcount⟩ := of_expectParams hparams
    cases hbuilt
    exact ⟨hadmits.1 hcount, p, buildPattern_eq_ok_iff.1 hp, rfl⟩
  · rintro ⟨hne, p, hbuild, rfl⟩
    rw [expectParams_eq_ok (hadmits.2 hne)]
    have hp : buildPattern entry.name (Patterns.list clause.params) = .ok p :=
      buildPattern_eq_ok_iff.2 hbuild
    show Except.map _ (buildPattern entry.name (Patterns.list clause.params) >>= _) = _
    rw [hp]
    rfl

/-- Whatever its items are, a list rule is read from the text that escapes them and puts bars
between them, and it accepts the items, but for case, and nothing else.  The negated rule is
built of the same lists, and accepts the values that the rule rejects. -/
theorem accepts_iff_listed (hentry : findEntry (normalize clause.name) = some entry)
    (hname : entry.name = "in") (hother : findEntry (normalize other.name) = some negated)
    (hnegated : negated.name = "not_in") (hparams : other.params = clause.params) :
    ((∃ v, clause.resolve literal = .ok v) ↔ ∃ u, other.resolve literal = .ok u) ∧
      ∀ v u, clause.resolve literal = .ok v → other.resolve literal = .ok u →
        (∃ p, Pattern.read? (listText clause.params) {} = some p ∧
          v.check = .test (.pattern p false false) ∧ u.check = .test (.pattern p true false)) ∧
        ∀ value others, ∃ accepted, v.passes? value others = some accepted ∧
          u.passes? value others = some (!accepted) ∧
          (accepted = true ↔ Listed clause.params (value.getD "")) := by
  have hlist : entry.family = .list false := by
    have hin : findEntry "in" = some ⟨"in", ["in_list"], .list false, "INVALID_IN_LIST"⟩ := rfl
    rw [eq_of_name_eq (of_findEntry hentry).1 (of_findEntry hin).1 hname]
  have hnot : negated.family = .list true := by
    have hnotIn : findEntry "not_in" =
        some ⟨"not_in", ["not_in_list"], .list true, "INVALID_NOT_IN_LIST"⟩ := rfl
    rw [eq_of_name_eq (of_findEntry hother).1 (of_findEntry hnotIn).1 hnegated]
  simp only [resolve_list_iff hentry hlist, resolve_list_iff hother hnot, hparams]
  constructor
  · constructor
    · rintro ⟨v, hne, p, hbuild, -⟩
      exact ⟨_, hne, p, hbuild, rfl⟩
    · rintro ⟨u, hne, p, hbuild, -⟩
      exact ⟨_, hne, p, hbuild, rfl⟩
  · rintro v u ⟨hne, p, hbuild, rfl⟩ ⟨-, q, hbuild', rfl⟩
    obtain rfl : p = q := Option.some.inj (hbuild.symm.trans hbuild')
    refine ⟨⟨p, by rw [read?_listText hne, hbuild], rfl, rfl⟩, ?_⟩
    intro value others
    refine ⟨p.occursIn (value.getD ""), ?_, ?_, occursIn_list_iff hne hbuild _⟩
    · rw [passes?_of_test rfl]
      simp [Test.passes]
    · rw [passes?_of_test rfl]
      simp [Test.passes]

/-- Items with characters that mean something in patterns, one of which starts another, and one
whose case variants are of different kinds. -/
theorem accepts_escaped_items : ∃ v u,
    Clause.resolve ⟨"inList", ["a.b", "c|d", "c|d)$", "Kß"], none⟩ none = .ok v ∧
      Clause.resolve ⟨"not_in", ["a.b", "c|d", "c|d)$", "Kß"], none⟩ none = .ok u ∧
      (∀ text ∈ ["A.B", "C|D", "c|D)$", "\u212a\u1e9e"],
        v.passes? (some text) (fun _ => none) = some true) ∧
      ∀ text ∈ ["axb", "c", "a.b\n", ""],
        u.passes? (some text) (fun _ => none) = some true := by
  let clause : Clause := ⟨"inList", ["a.b", "c|d", "c|d)$", "Kß"], none⟩
  let other : Clause := ⟨"not_in", ["a.b", "c|d", "c|d)$", "Kß"], none⟩
  have hname : normalize clause.name = "in_list" := by decide +kernel
  have hentry : findEntry (normalize clause.name) =
      some ⟨"in", ["in_list"], .list false, "INVALID_IN_LIST"⟩ := by
    rw [hname]
    rfl
  have hnot : normalize other.name = "not_in" := by decide +kernel
  have hother : findEntry (normalize other.name) =
      some ⟨"not_in", ["not_in_list"], .list true, "INVALID_NOT_IN_LIST"⟩ := by
    rw [hnot]
    rfl
  have hsome : ((clause.resolve none).toOption).isSome = true := by decide +kernel
  obtain ⟨v, hv⟩ := exists_eq_ok_of_isSome hsome
  obtain ⟨hbuilt, hlisted⟩ := @accepts_iff_listed clause other none _ _ hentry rfl hother rfl rfl
  obtain ⟨u, hu⟩ := hbuilt.1 ⟨v, hv⟩
  have haccepts := (hlisted v u hv hu).2
  refine ⟨v, u, hv, hu, fun text htext => ?_, fun text htext => ?_⟩
  · have hlist : ∀ text ∈ ["A.B", "C|D", "c|D)$", "\u212a\u1e9e"],
        Listed clause.params text := by
      decide +kernel
    obtain ⟨accepted, hpasses, -, haccepted⟩ := haccepts (some text) fun _ => none
    rw [hpasses, haccepted.2 (hlist text htext)]
  · have hlist : ∀ text ∈ ["axb", "c", "a.b\n", ""], ¬ Listed clause.params text := by
      decide +kernel
    obtain ⟨accepted, -, hpasses, haccepted⟩ := haccepts (some text) fun _ => none
    rw [hpasses, Option.some.injEq, Bool.not_eq_true', ← Bool.not_eq_true, haccepted]
    exact hlist text htext

end Rule

end FieldRules
