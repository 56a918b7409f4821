import FieldRules.Proofs.CaseFolding
import FieldRules.Proofs.Cutting
import FieldRules.Proofs.Numerals
import FieldRules.Rule.Compile

/-!
# The two spellings of a keyword

Words can be joined to a keyword with low lines between them, or with capitals at
their starts.

* `isCapital_of_mem_snakeTail`, `snakeTail_of_forall`: behind its first character a
  normalized keyword has no capitals, and without these nothing changes.
* `snakeTail_flatMap_capitalized`: capitals become low lines.
* `SameUpTo`: two results that differ at most in the keyword that an error names.
* `resolve_sameUpTo`: a clause means what its normalized keyword means.
* `spellings_agree`: the two spellings of some words name the same rule.
-/

namespace FieldRules.Rule

open Text Unicode.CaseFold

variable {last c : Char} {word rest text : List Char} {words : List (List Char)}

/-! ## Keywords without capitals -/

theorem isCapital_iff : isCapital c = true ↔ 65 ≤ c.toNat ∧ c.toNat ≤ 90 := by
  simp only [isCapital, Bool.and_eq_true, decide_eq_true_eq, Char.le_def, UInt32.le_iff_toNat_le]
  rfl

theorem isCapital_toLower (hc : isCapital c = true) : isCapital c.toLower = false := by
  have hall : ∀ c : Char, 65 ≤ c.toNat → c.toNat ≤ 90 → isCapital c.toLower = false :=
    forall_of_interval (by decide +kernel)
  obtain ⟨hlow, hhigh⟩ := isCapital_iff.1 hc
  exact hall c hlow hhigh

theorem isCapital_of_mem_snakeTail (hmem : c ∈ snakeTail last text) : isCapital c = false := by
  induction text generalizing last with
  | nil => cases hmem
  | cons head rest ih =>
    rw [snakeTail] at hmem
    split at hmem
    · rename_i hhead
      have hsmall := isCapital_toLower hhead
      split at hmem
      · rcases List.mem_cons.1 hmem with rfl | hmem
        · exact hsmall
        · exact ih hmem
      · rcases List.mem_cons.1 hmem with rfl | hmem
        · rfl
        · rcases List.mem_cons.1 hmem with rfl | hmem
          · exact hsmall
          · exact ih hmem
    · rename_i hhead
      rcases List.mem_cons.1 hmem with rfl | hmem
      · simpa using hhead
      · exact ih hmem

theorem snakeTail_append (hword : ∀ c ∈ word, isCapital c = false) (last : Char)
    (rest : List Char) :
    snakeTail last (word ++ rest) = word ++ snakeTail (word.getLastD last) rest := by
  induction word generalizing last with
  | nil => rfl
  | cons c word ih =>
    rw [List.forall_mem_cons] at hword
    rw [List.cons_append, snakeTail, if_neg (by simp [hword.1]), ih hword.2, List.cons_append,
      List.getLastD_cons]

theorem snakeTail_of_forall (htext : ∀ c ∈ text, isCapital c = false) (last : Char) :
    snakeTail last text = text := by
  have happend := snakeTail_append htext last []
  rwa [List.append_nil, snakeTail, List.append_nil] at happend

theorem snakeCase_of_forall (htext : ∀ c ∈ text.tail, isCapital c = false) :
    snakeCase text = text := by
  cases text with
  | nil => rfl
  | cons c rest =>
    rw [List.tail_cons] at htext
    rw [snakeCase, snakeTail_of_forall htext]

theorem snakeCase_snakeCase (text : List Char) : snakeCase (snakeCase text) = snakeCase text := by
  refine snakeCase_of_forall fun c hmem => ?_
  cases text with
  | nil => cases hmem
  | cons head rest => exact isCapital_of_mem_snakeTail hmem

theorem normalize_normalize (keyword : String) :
    normalize (normalize keyword) = normalize keyword := by
  rw [normalize, normalize, String.toList_ofList, snakeCase_snakeCase]

/-! ## Words -/

/-- The characters of words: small letters and digits. -/
def isWordChar (c : Char) : Bool :=
  c.isLower || c.isDigit

/-- Words that keywords are made of.  Each after the first one starts with a letter,
so that there is a capital for it. -/
structure AreWords (words : List String) : Prop where
  nonempty : ∀ word ∈ words, word ≠ ""
  chars : ∀ word ∈ words, ∀ c ∈ word.toList, isWordChar c = true
  letters : ∀ word ∈ words.tail, ∀ c ∈ word.toList.head?, c.isLower = true

theorem isLower_iff : c.isLower = true ↔ 97 ≤ c.toNat ∧ c.toNat ≤ 122 := by
  change (decide ('a'.val ≤ c.val) && decide (c.val ≤ 'z'.val)) = true ↔ _
  simp only [Bool.and_eq_true, decide_eq_true_eq, UInt32.le_iff_toNat_le]
  rfl

theorem isWordChar_iff : isWordChar c = true ↔
    (97 ≤ c.toNat ∧ c.toNat ≤ 122) ∨ (48 ≤ c.toNat ∧ c.toNat ≤ 57) := by
  rw [isWordChar, Bool.or_eq_true, isLower_iff, isDigit_iff]

theorem isCapital_of_isWordChar (hc : isWordChar c = true) : isCapital c = false := by
  rw [isWordChar_iff] at hc
  rw [Bool.eq_false_iff, ne_eq, isCapital_iff]
  omega

theorem ne_lowLine_of_isWordChar (hc : isWordChar c = true) : c ≠ '_' := by
  rintro rfl
  cases hc

theorem capital_toUpper (hc : c.isLower = true) :
    isCapital c.toUpper = true ∧ c.toUpper.toLower = c := by
  have hall : ∀ c : Char, 97 ≤ c.toNat → c.toNat ≤ 122 →
      isCapital c.toUpper = true ∧ c.toUpper.toLower = c :=
    forall_of_interval (by decide +kernel)
  obtain ⟨hlow, hhigh⟩ := isLower_iff.1 hc
  exact hall c hlow hhigh

/-- The words with low lines between them. -/
def snakeJoined (words : List String) : String :=
  "_".intercalate words

/-- The word with a capital at its start. -/
def capitalized (word : String) : String :=
  String.ofList (word.toList.modifyHead Char.toUpper)

/-- The words with capitals at their starts, apart from the first word. -/
def camelJoined : List String → String
  | [] => ""
  | first :: rest => first ++ String.join (rest.map capitalized)

/-! ## From capitals to low lines -/

/-- A word that starts with a letter. -/
def StartsSmall (word : List Char) : Prop :=
  ∃ c rest, word = c :: rest ∧ c.isLower = true ∧ ∀ c ∈ rest, isWordChar c = true

theorem isWordChar_getLastD (hlast : isWordChar last = true)
    (hword : ∀ c ∈ word, isWordChar c = true) : isWordChar (word.getLastD last) = true := by
  cases word using List.reverseRecOn with
  | nil => exact hlast
  | append_singleton front c =>
    rw [List.getLastD_concat]
    exact hword c (by simp)

theorem snakeTail_flatMap_capitalized (hwords : ∀ word ∈ words, StartsSmall word)
    (hlast : isWordChar last = true) :
    snakeTail last (words.flatMap (List.modifyHead Char.toUpper)) = words.flatMap ('_' :: ·) := by
  induction words generalizing last with
  | nil => rfl
  | cons word words ih =>
    rw [List.forall_mem_cons] at hwords
    obtain ⟨⟨c, rest, rfl, hc, hrest⟩, hwords⟩ := hwords
    obtain ⟨hcapital, hlower⟩ := capital_toUpper hc
    have hplain : ∀ c ∈ rest, isCapital c = false :=
      fun c hmem => isCapital_of_isWordChar (hrest c hmem)
    have hend : isWordChar (rest.getLastD c) = true :=
      isWordChar_getLastD (by simp [isWordChar, hc]) hrest
    calc snakeTail last (c.toUpper :: (rest ++ words.flatMap (List.modifyHead Char.toUpper)))
        = '_' :: c :: snakeTail c (rest ++ words.flatMap (List.modifyHead Char.toUpper)) := by
          rw [snakeTail, if_pos hcapital, if_neg (ne_lowLine_of_isWordChar hlast), hlower]
      _ = '_' :: c :: (rest ++ words.flatMap ('_' :: ·)) := by
          rw [snakeTail_append hplain, ih hwords hend]
      _ = ('_' :: c :: rest) ++ words.flatMap ('_' :: ·) := rfl

theorem snakeCase_camel {first : List Char} (hne : first ≠ [])
    (hfirst : ∀ c ∈ first, isWordChar c = true) (hwords : ∀ word ∈ words, StartsSmall word) :
    snakeCase (first ++ words.flatMap (List.modifyHead Char.toUpper)) =
      ['_'].intercalate (first :: words) := by
  obtain ⟨c, rest, rfl⟩ := List.exists_cons_of_ne_nil hne
  rw [List.forall_mem_cons] at hfirst
  have hplain : ∀ c ∈ rest, isCapital c = false :=
    fun c hmem => isCapital_of_isWordChar (hfirst.2 c hmem)
  rw [List.cons_append, snakeCase, snakeTail_append hplain,
    snakeTail_flatMap_capitalized hwords (isWordChar_getLastD hfirst.1 hfirst.2),
    intercalate_cons_eq, List.cons_append]

namespace AreWords

variable {words : List String}

theorem startsSmall {first : String} {rest : List String} (hwords : AreWords (first :: rest)) :
    ∀ word ∈ rest.map String.toList, StartsSmall word := by
  rw [List.forall_mem_map]
  intro word hmem
  have hchars := hwords.chars word (List.mem_cons_of_mem first hmem)
  have hletters := hwords.letters word hmem
  have hne : word.toList ≠ [] := by
    simpa using hwords.nonempty word (List.mem_cons_of_mem first hmem)
  obtain ⟨c, others, hword⟩ := List.exists_cons_of_ne_nil hne
  rw [hword] at hchars hletters ⊢
  exact ⟨c, others, rfl, hletters c rfl, (List.forall_mem_cons.1 hchars).2⟩

theorem normalize_camelJoined (hwords : AreWords words) :
    normalize (camelJoined words) = snakeJoined words := by
  cases words with
  | nil => rfl
  | cons first rest =>
    have hne : first.toList ≠ [] := by simpa using hwords.nonempty first List.mem_cons_self
    have hcamel : (camelJoined (first :: rest)).toList =
        first.toList ++ (rest.map String.toList).flatMap (List.modifyHead Char.toUpper) := by
      rw [camelJoined, String.toList_append, String.toList_join, List.flatMap_map, List.flatMap_map]
      simp only [capitalized, String.toList_ofList]
    rw [← String.toList_inj, normalize, String.toList_ofList, hcamel, snakeJoined,
      String.toList_intercalate, List.map_cons]
    exact snakeCase_camel hne (hwords.chars first List.mem_cons_self) hwords.startsSmall

theorem normalize_snakeJoined (hwords : AreWords words) :
    normalize (snakeJoined words) = snakeJoined words := by
  rw [← hwords.normalize_camelJoined, normalize_normalize]

end AreWords

/-! ## Clauses with other spellings -/

/-- Two results are the same, or they are errors that differ in the keyword that they
name: each names the keyword as it is written in its own clause. -/
inductive SameUpTo {α : Type} (keyword other : String) :
    Except ConfigError α → Except ConfigError α → Prop
  | same (result : Except ConfigError α) : SameUpTo keyword other result result
  | unknownRule :
      SameUpTo keyword other (.error (.unknownRule keyword)) (.error (.unknownRule other))
  | missingLiteral :
      SameUpTo keyword other (.error (.missingLiteral keyword)) (.error (.missingLiteral other))

variable {keyword other : String} {params : List String} {alt : Option String} {entry : Entry}
  {literal : Option LiteralPattern}

/-- What comes next is told the result, but not the keyword. -/
theorem SameUpTo.bind {α β : Type} {x y : Except ConfigError α} (hxy : SameUpTo keyword other x y)
    (f : α → Except ConfigError β) : SameUpTo keyword other (x >>= f) (y >>= f) := by
  cases hxy with
  | same => exact .same _
  | unknownRule => exact .unknownRule
  | missingLiteral => exact .missingLiteral

/-- Only a rule that lacks its literal pattern tells how its keyword is written. -/
theorem build_sameUpTo (entry : Entry) (keyword other : String) (params : List String)
    (alt : Option String) (literal : Option LiteralPattern) :
    SameUpTo keyword other (entry.build ⟨keyword, params, alt⟩ literal)
      (entry.build ⟨other, params, alt⟩ literal) := by
  unfold Entry.build
  dsimp only
  cases entry.family with
  | literal =>
    dsimp only
    cases expectParams entry.name params .zero with
    | error e => exact .same _
    | ok =>
      cases literal with
      | none => exact .missingLiteral
      | some literal => exact .same _
  | _ => exact .same _

/-- A clause means what its normalized keyword means. -/
theorem resolve_sameUpTo (hkeyword : normalize keyword = normalize other) (params : List String)
    (alt : Option String) (literal : Option LiteralPattern) :
    SameUpTo keyword other (Clause.resolve ⟨keyword, params, alt⟩ literal)
      (Clause.resolve ⟨other, params, alt⟩ literal) := by
  unfold Clause.resolve
  dsimp only
  rw [hkeyword]
  cases findEntry (normalize other) with
  | some entry => exact (build_sameUpTo entry keyword other params alt literal).bind _
  | none =>
    cases findDate (normalize other) with
    | some found => exact .same _
    | none => exact .unknownRule

/-! ## The two spellings -/

/-- Normalizing a keyword twice is normalizing it once.  It leads the spelling with
capitals to the one with low lines, which it leaves alone; so a clause has the same
result under both spellings. -/
theorem spellings_agree {words : List String} (hwords : AreWords words) :
    (∀ keyword, normalize (normalize keyword) = normalize keyword) ∧
      normalize (camelJoined words) = snakeJoined words ∧
      normalize (snakeJoined words) = snakeJoined words ∧
      ∀ params alt literal, SameUpTo (camelJoined words) (snakeJoined words)
        (Clause.resolve ⟨camelJoined words, params, alt⟩ literal)
        (Clause.resolve ⟨snakeJoined words, params, alt⟩ literal) := by
  have hcamel := hwords.normalize_camelJoined
  have hsnake := hwords.normalize_snakeJoined
  exact ⟨normalize_normalize, hcamel, hsnake, resolve_sameUpTo (hcamel.trans hsnake.symm)⟩

/-- The words of the rule on dates that begin with the day and have a least date. -/
def euroMinWords : List String :=
  ["date", "euro", "long", "min"]

theorem spellings_agree_euroMin : AreWords euroMinWords ∧
    camelJoined euroMinWords = "dateEuroLongMin" ∧
      snakeJoined euroMinWords = "date_euro_long_min" ∧
      normalize "dateEuroLongMin" = "date_euro_long_min" ∧
      ∀ params alt literal, SameUpTo "dateEuroLongMin" "date_euro_long_min"
        (Clause.resolve ⟨"dateEuroLongMin", params, alt⟩ literal)
        (Clause.resolve ⟨"date_euro_long_min", params, alt⟩ literal) := by
  have hwords : AreWords euroMinWords := by
    -- the characters of a word can be gone through, all characters there are cannot
    refine ⟨by decide, ?_, ?_⟩
    · simp only [← List.all_eq_true]
      decide +kernel
    · simp only [Option.mem_def, ← Option.all_eq_true]
      decide +kernel
  have hcamel : camelJoined euroMinWords = "dateEuroLongMin" := by decide +kernel
  have hsnake : snakeJoined euroMinWords = "date_euro_long_min" := by decide +kernel
  obtain ⟨-, hnormalize, -, hresolve⟩ := spellings_agree hwords
  rw [hcamel, hsnake] at hnormalize hresolve
  exact ⟨hwords, hcamel, hsnake, hnormalize, hresolve⟩

end FieldRules.Rule
