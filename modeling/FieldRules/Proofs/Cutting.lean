import Mathlib.Data.List.DropRight
import Mathlib.Data.List.Infix
import FieldRules.Text.Blank
import FieldRules.Text.Split

/-!
# Where text is cut

* `dropLead?_eq_some_iff`, `splitAt?_eq_none_iff`: a word is found if and only if it
  stands there.
* `splitAt?_append`: the first place of a word behind a text that does not hold it.
* `split_intercalate`, `intercalate_split`: cutting at a separator undoes joining with it,
  and the other way round.
* `intercalate_append_cons_eq`: where the separators stand in what is joined.
* `dropLead?_append_cons`, `splitAt?_append_cons` and their like: what is found in a
  text is found there too when the text goes on behind a separator.
* `trim_eq_self_iff`, `trim_trim`: a text is trimmed if it has no blank at either
  end, and is so once it has been trimmed.
-/

namespace FieldRules.Text

variable {word text before after rest : List Char} {sep c : Char}

/-! ## Words at the start of a text -/

theorem dropLead?_append (word after : List Char) :
    dropLead? word (word ++ after) = some after := by
  induction word with
  | nil => rfl
  | cons w word ih => rw [List.cons_append, dropLead?, if_pos rfl, ih]

theorem dropLead?_eq_some_iff : dropLead? word text = some after ↔ text = word ++ after := by
  refine ⟨eq_append_of_dropLead?, ?_⟩
  rintro rfl
  exact dropLead?_append word after

theorem dropLead?_eq_none_iff : dropLead? word text = none ↔ ¬ word <+: text := by
  constructor
  · rintro hnone ⟨after, rfl⟩
    rw [dropLead?_append] at hnone
    cases hnone
  · intro hnot
    cases hlead : dropLead? word text with
    | none => rfl
    | some after => exact absurd ⟨after, (dropLead?_eq_some_iff.1 hlead).symm⟩ hnot

/-! ## The first place of a word -/

theorem splitAt?_eq_none_iff : splitAt? word text = none ↔ ¬ word <:+: text := by
  induction text with
  | nil =>
    rw [splitAt?, Option.map_eq_none_iff, dropLead?_eq_none_iff, List.prefix_nil, List.infix_nil]
  | cons c rest ih =>
    rw [splitAt?, List.infix_cons_iff, not_or, ← ih]
    cases hlead : dropLead? word (c :: rest) with
    | none => simp [dropLead?_eq_none_iff.1 hlead]
    | some after =>
      have hbegin : word <+: c :: rest := ⟨after, (dropLead?_eq_some_iff.1 hlead).symm⟩
      simp [hbegin]

/-- The text before the first place of a word does not hold the word. -/
theorem not_infix_of_splitAt? (hword : word ≠ []) (h : splitAt? word text = some (before, after)) :
    ¬ word <:+: before := by
  induction text generalizing before with
  | nil =>
    obtain ⟨_, _, heq⟩ := Option.map_eq_some_iff.1 h
    cases heq
    rwa [List.infix_nil]
  | cons c rest ih =>
    rw [splitAt?] at h
    cases hlead : dropLead? word (c :: rest) with
    | some found =>
      rw [hlead] at h
      cases h
      rwa [List.infix_nil]
    | none =>
      rw [hlead] at h
      obtain ⟨⟨piece, found⟩, hrest, heq⟩ := Option.map_eq_some_iff.1 h
      cases heq
      rw [List.infix_cons_iff, not_or]
      refine ⟨fun hbegin => dropLead?_eq_none_iff.1 hlead ?_, ih hrest⟩
      rw [eq_append_of_splitAt? hrest, List.append_assoc, ← List.cons_append]
      exact hbegin.trans (List.prefix_append _ _)

/-- A word that begins a text ends before a character that is not in the word. -/
theorem prefix_of_prefix_append (hrest : ∀ c ∈ rest.head?, c ∉ word) (h : word <+: text ++ rest) :
    word <+: text := by
  rcases List.prefix_or_prefix_of_prefix h (List.prefix_append text rest) with h' | ⟨ending, rfl⟩
  · exact h'
  · rw [List.prefix_append_right_inj] at h
    cases ending with
    | nil => rw [List.append_nil]
    | cons c ending =>
      obtain ⟨after, rfl⟩ := h
      exact absurd (by simp) (hrest c rfl)

/-- A word whose first character does not come again in it cannot begin before a
place where it stands, and end in it. -/
theorem not_prefix_append {w : Char} {ws : List Char} (hw : w ∉ ws) (hbefore : before ≠ [])
    (hnot : ¬ w :: ws <+: before) (after : List Char) :
    ¬ w :: ws <+: before ++ (w :: ws ++ after) := by
  obtain ⟨c, before, rfl⟩ := List.exists_cons_of_ne_nil hbefore
  rw [List.cons_append, List.cons_prefix_cons]
  rintro ⟨rfl, hbegin⟩
  refine hnot (List.cons_prefix_cons.2 ⟨rfl, prefix_of_prefix_append ?_ hbegin⟩)
  rintro _ ⟨⟩
  exact hw

theorem splitAt?_append {w : Char} {ws : List Char} (hw : w ∉ ws) (hnot : ¬ w :: ws <:+: before)
    (after : List Char) :
    splitAt? (w :: ws) (before ++ (w :: ws ++ after)) = some (before, after) := by
  induction before with
  | nil => rw [List.nil_append, List.cons_append, splitAt?, ← List.cons_append, dropLead?_append]
  | cons c before ih =>
    rw [List.infix_cons_iff, not_or] at hnot
    have hlead : dropLead? (w :: ws) (c :: before ++ (w :: ws ++ after)) = none :=
      dropLead?_eq_none_iff.2 (not_prefix_append hw (List.cons_ne_nil c before) hnot.1 after)
    rw [List.cons_append] at hlead ⊢
    rw [splitAt?, hlead, ih hnot.2]
    rfl

/-! ## Separators -/

theorem split_eq_splitOn (sep : Char) (text : List Char) : split sep text = text.splitOn sep := by
  induction text with
  | nil => rfl
  | cons c rest ih =>
    rw [split, ih, List.splitOn, List.splitOn, List.splitOnP_cons_eq_if_modifyHead]
    by_cases hc : c = sep
    · rw [if_pos hc, if_pos (by simpa using hc)]
    · rw [if_neg hc, if_neg (by simpa using hc)]
      obtain ⟨piece, pieces, hpieces⟩ :=
        List.exists_cons_of_ne_nil (List.splitOnP_ne_nil (· == sep) rest)
      rw [hpieces]
      rfl

/-- Cutting at a separator undoes joining with it. -/
theorem split_intercalate {pieces : List (List Char)} (hne : pieces ≠ [])
    (hpieces : ∀ piece ∈ pieces, sep ∉ piece) : split sep ([sep].intercalate pieces) = pieces := by
  rw [split_eq_splitOn]
  exact List.splitOn_intercalate sep hpieces hne

/-- Joining with a separator undoes cutting at it. -/
theorem intercalate_split (sep : Char) (text : List Char) :
    [sep].intercalate (split sep text) = text := by
  rw [split_eq_splitOn]
  exact List.intercalate_splitOn sep

/-- Of pieces that are joined, all but the first have the separator in front of them. -/
theorem intercalate_cons_eq (sep : Char) (piece : List Char) (pieces : List (List Char)) :
    [sep].intercalate (piece :: pieces) = piece ++ pieces.flatMap (sep :: ·) := by
  induction pieces generalizing piece with
  | nil => rw [List.intercalate_singleton, List.flatMap_nil, List.append_nil]
  | cons next pieces ih =>
    rw [List.intercalate_cons_cons, ih, List.flatMap_cons]
    simp only [List.append_assoc, List.cons_append, List.nil_append]

/-- Those before a piece have it behind them, and those after it in front of them. -/
theorem intercalate_append_cons_eq (sep : Char) (before : List (List Char)) (piece : List Char)
    (after : List (List Char)) :
    [sep].intercalate (before ++ piece :: after) =
      before.flatMap (· ++ [sep]) ++ (piece ++ after.flatMap (sep :: ·)) := by
  induction before with
  | nil => exact intercalate_cons_eq sep piece after
  | cons first before ih =>
    rw [List.cons_append, List.intercalate_cons_of_ne_nil (by simp), ih, List.flatMap_cons]
    simp only [List.append_assoc]

theorem not_mem_intercalate {seps : List Char} {pieces : List (List Char)} (hseps : c ∉ seps)
    (hpieces : ∀ piece ∈ pieces, c ∉ piece) : c ∉ seps.intercalate pieces := by
  induction pieces with
  | nil => exact List.not_mem_nil
  | cons piece pieces ih =>
    have ih := ih fun other hmem => hpieces other (List.mem_cons_of_mem piece hmem)
    have hpiece := hpieces piece List.mem_cons_self
    cases pieces with
    | nil => rwa [List.intercalate_singleton]
    | cons next pieces =>
      rw [List.intercalate_cons_cons]
      simp only [List.mem_append, not_or]
      exact ⟨⟨hpiece, hseps⟩, ih⟩

theorem splitOnce_append {isSep : Char → Bool} (hbefore : ∀ c ∈ before, isSep c = false)
    (hc : isSep c = true) (after : List Char) :
    splitOnce isSep (before ++ c :: after) = some (before, after) := by
  induction before with
  | nil => rw [List.nil_append, splitOnce, if_pos hc]
  | cons head before ih =>
    have hrest := ih fun c hmem => hbefore c (List.mem_cons_of_mem head hmem)
    have hhead := hbefore head List.mem_cons_self
    rw [List.cons_append, splitOnce, hhead, if_neg Bool.false_ne_true, hrest]
    rfl

theorem splitOnce_eq_none {isSep : Char → Bool} (htext : ∀ c ∈ text, isSep c = false) :
    splitOnce isSep text = none := by
  induction text with
  | nil => rfl
  | cons head rest ih =>
    have hrest := ih fun c hmem => htext c (List.mem_cons_of_mem head hmem)
    rw [splitOnce, htext head List.mem_cons_self, if_neg Bool.false_ne_true, hrest]
    rfl

/-- What is found at a separator is the text around it. -/
theorem eq_append_of_splitOnce {isSep : Char → Bool}
    (h : splitOnce isSep text = some (before, after)) :
    ∃ sep, isSep sep = true ∧ text = before ++ sep :: after := by
  induction text generalizing before with
  | nil => cases h
  | cons head rest ih =>
    rw [splitOnce] at h
    split at h
    · next hsep =>
      cases h
      exact ⟨head, hsep, rfl⟩
    · obtain ⟨⟨left, right⟩, hfound, heq⟩ := Option.map_eq_some_iff.1 h
      cases heq
      obtain ⟨sep, hsep, rfl⟩ := ih hfound
      exact ⟨sep, hsep, rfl⟩

/-- Characters of one kind end where another kind begins. -/
theorem takeWhile_dropWhile_append {p : Char → Bool} (hbefore : ∀ c ∈ before, p c = true)
    (hrest : ∀ c ∈ rest.head?, p c = false) :
    (before ++ rest).takeWhile p = before ∧ (before ++ rest).dropWhile p = rest := by
  rw [List.takeWhile_append_of_pos hbefore, List.dropWhile_append_of_pos hbefore]
  cases rest with
  | nil => exact ⟨List.append_nil before, rfl⟩
  | cons c rest =>
    have hc : ¬ p c = true := by rw [hrest c rfl]; exact Bool.false_ne_true
    rw [List.takeWhile_cons_of_neg hc, List.dropWhile_cons_of_neg hc, List.append_nil]
    exact ⟨rfl, rfl⟩

/-! ## Texts that go on behind a separator -/

theorem dropLead?_append_cons (hsep : sep ∉ word) (text rest : List Char) :
    dropLead? word (text ++ sep :: rest) = (dropLead? word text).map (· ++ sep :: rest) := by
  induction word generalizing text with
  | nil => rfl
  | cons w word ih =>
    rw [List.mem_cons, not_or] at hsep
    cases text with
    | nil =>
      rw [List.nil_append, dropLead?, dropLead?, if_neg (Ne.symm hsep.1)]
      rfl
    | cons c text =>
      rw [List.cons_append, dropLead?, dropLead?]
      split
      · exact ih hsep.2 text
      · rfl

/-- The first place of a word does not move when more text follows. -/
theorem splitAt?_append_cons (hsep : sep ∉ word) (rest : List Char)
    (h : splitAt? word text = some (before, after)) :
    splitAt? word (text ++ sep :: rest) = some (before, after ++ sep :: rest) := by
  induction text generalizing before with
  | nil =>
    obtain ⟨found, hlead, heq⟩ := Option.map_eq_some_iff.1 h
    cases heq
    rw [splitAt?.eq_def, List.nil_append]
    dsimp only
    rw [show sep :: rest = [] ++ sep :: rest from rfl, dropLead?_append_cons hsep, hlead]
    rfl
  | cons c text ih =>
    rw [splitAt?] at h
    rw [List.cons_append, splitAt?, ← List.cons_append, dropLead?_append_cons hsep]
    cases hlead : dropLead? word (c :: text) with
    | some found =>
      rw [hlead] at h
      cases h
      rfl
    | none =>
      rw [hlead] at h
      obtain ⟨⟨piece, found⟩, hrest, heq⟩ := Option.map_eq_some_iff.1 h
      cases heq
      rw [Option.map_none, ih hrest]
      rfl

theorem split_append_cons (sep : Char) (text rest : List Char) :
    split sep (text ++ sep :: rest) = split sep text ++ split sep rest := by
  simp only [split_eq_splitOn, List.splitOn]
  exact List.splitOnP_append_cons text rest (by simp)

theorem takeWhile_append_cons {p : Char → Bool} (hsep : p sep = false) (text rest : List Char) :
    (text ++ sep :: rest).takeWhile p = text.takeWhile p := by
  have hnone : (sep :: rest).takeWhile p = [] := List.takeWhile_cons_of_neg (by simp [hsep])
  rw [List.takeWhile_append, hnone, List.append_nil]
  split
  · next hlength => exact ((List.takeWhile_prefix p).eq_of_length hlength).symm
  · rfl

theorem dropWhile_append_cons {p : Char → Bool} (hsep : p sep = false) (text rest : List Char) :
    (text ++ sep :: rest).dropWhile p = text.dropWhile p ++ sep :: rest := by
  have hself : (sep :: rest).dropWhile p = sep :: rest :=
    List.dropWhile_cons_of_neg (by simp [hsep])
  rw [List.dropWhile_append, hself]
  split
  · next hempty => rw [List.isEmpty_iff.1 hempty, List.nil_append]
  · rfl

/-! ## Blanks at the ends -/

/-- The text does not begin with a blank. -/
def NoBlankFirst (text : List Char) : Prop :=
  ∀ c ∈ text.head?, isBlank c = false

/-- The text does not end with a blank. -/
def NoBlankLast (text : List Char) : Prop :=
  ∀ c ∈ text.getLast?, isBlank c = false

instance (text : List Char) : Decidable (NoBlankLast text) :=
  decidable_of_iff (text.getLast?.all (!isBlank ·) = true) <| by
    unfold NoBlankLast
    cases text.getLast? <;> simp

theorem dropWhile_isBlank_eq_self_iff : text.dropWhile isBlank = text ↔ NoBlankFirst text := by
  unfold NoBlankFirst
  cases text with
  | nil => simp
  | cons c rest =>
    rw [List.dropWhile_eq_self_iff]
    simp

theorem trimEnd_eq_self_iff : trimEnd text = text ↔ NoBlankLast text := by
  change text.rdropWhile isBlank = text ↔ _
  rw [List.rdropWhile_eq_self_iff]
  unfold NoBlankLast
  cases text with
  | nil => simp
  | cons c rest => simp [List.getLast?_eq_some_getLast]

theorem noBlankLast_append (hbefore : NoBlankLast before) (hafter : NoBlankLast after) :
    NoBlankLast (before ++ after) := by
  intro c hc
  rw [List.getLast?_append, Option.mem_def, Option.or_eq_some_iff] at hc
  rcases hc with hc | ⟨-, hc⟩
  · exact hafter c hc
  · exact hbefore c hc

theorem noBlankLast_intercalate {seps : List Char} {pieces : List (List Char)}
    (hseps : NoBlankLast seps) (hpieces : ∀ piece ∈ pieces, NoBlankLast piece) :
    NoBlankLast (seps.intercalate pieces) := by
  induction pieces with
  | nil => exact nofun
  | cons piece pieces ih =>
    have ih := ih fun other hmem => hpieces other (List.mem_cons_of_mem piece hmem)
    have hpiece := hpieces piece List.mem_cons_self
    cases pieces with
    | nil => rwa [List.intercalate_singleton]
    | cons next pieces =>
      rw [List.intercalate_cons_cons]
      exact noBlankLast_append (noBlankLast_append hpiece hseps) ih

theorem NoBlankFirst.of_prefix (htext : NoBlankFirst text) (hbegin : before <+: text) :
    NoBlankFirst before := by
  obtain ⟨rest, rfl⟩ := hbegin
  cases before with
  | nil => exact nofun
  | cons c before => exact htext

theorem trim_eq_self_iff : trim text = text ↔ NoBlankFirst text ∧ NoBlankLast text := by
  rw [← dropWhile_isBlank_eq_self_iff, ← trimEnd_eq_self_iff]
  unfold trim
  constructor
  · intro htrim
    -- neither step can lose a character
    have hlength : (text.dropWhile isBlank).length = text.length := by
      refine le_antisymm (List.length_dropWhile_le _ _) ?_
      have hend : (trimEnd (text.dropWhile isBlank)).length ≤ (text.dropWhile isBlank).length :=
        (List.rdropWhile_prefix isBlank _).length_le
      rwa [htrim] at hend
    have hfirst : text.dropWhile isBlank = text :=
      (List.dropWhile_suffix _).eq_of_length hlength
    rw [hfirst] at htrim
    exact ⟨hfirst, htrim⟩
  · rintro ⟨hfirst, hlast⟩
    rw [hfirst, hlast]

theorem trim_eq_self_of_notBlank (htext : ∀ c ∈ text, isBlank c = false) : trim text = text := by
  rw [trim_eq_self_iff]
  exact ⟨fun c hc => htext c (List.mem_of_mem_head? hc),
    fun c hc => htext c (List.mem_of_mem_getLast? hc)⟩

theorem trim_trim (text : List Char) : trim (trim text) = trim text := by
  rw [trim_eq_self_iff, ← trimEnd_eq_self_iff]
  refine ⟨?_, List.rdropWhile_idempotent isBlank _⟩
  have hfirst : NoBlankFirst (text.dropWhile isBlank) :=
    dropWhile_isBlank_eq_self_iff.1 (List.dropWhile_idempotent isBlank text)
  exact hfirst.of_prefix (List.rdropWhile_prefix isBlank _)

end FieldRules.Text
