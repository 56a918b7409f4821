import Mathlib.Computability.Language
import FieldRules.Pattern
import FieldRules.Proofs.CaseFolding
import FieldRules.Proofs.Matching

/-!
# The languages of plain patterns

A written pattern is plain if it has no anchors and switches no options.  It
accepts the same words wherever they stand, so it has a language, which follows
the pattern: sequences are products, alternatives are sums, and a class has the
case variants of its members as words.

* `Expr.words`: the language of a plain pattern.
* `Re.Accepts`: what a core pattern accepts does not depend on what is around it.
* `exists_lower_of_isPlain`: a plain pattern accepts its language.
* `occursIn_iff_mem_words`: a pattern for the whole text finds the texts in its
  language.
* `mem_pow_flatMap_iff`, `mem_repeated_flatMap_iff`: repeated texts of one kind.
* `mem_pow_iff`, `mem_repeated_iff`: repeated characters of one kind.
* `isClass_char`, `isClass_oneOf_chars` and their like: the characters of a class.
* `mem_words_seq_iff`, `mem_words_alt_iff` and their like: words of larger patterns.
* `mem_words_word_iff`: the words of a row of characters.
-/

namespace FieldRules.Pattern

open Unicode CaseFold

variable {r a b : Re} {K L : Language Char} {s : CharSet} {c : Char} {w : List Char}
  {lo n : Nat} {hi : Option Nat}

/-! ## Core patterns -/

/-- The pattern accepts the words of the language, whatever stands around them. -/
def Re.Accepts (r : Re) (L : Language Char) : Prop :=
  ∀ before w after, Matches r before w after ↔ w ∈ L

/-- The words of one character of the set. -/
def CharSet.words (s : CharSet) : Language Char :=
  {w | ∃ c, s.contains c = true ∧ w = [c]}

theorem CharSet.mem_words_iff : w ∈ s.words ↔ ∃ c, s.contains c = true ∧ w = [c] :=
  Iff.rfl

/-- Between so many and so many words of the language, one after the other. -/
def repeated (lo : Nat) (hi : Option Nat) (L : Language Char) : Language Char :=
  {w | ∃ n, Within lo hi n ∧ w ∈ L ^ n}

/-- Copies of texts of one kind are the texts of so many things of that kind. -/
theorem mem_pow_flatMap_iff {α : Type} {Good : α → Prop} {text : α → List Char}
    (hL : ∀ w, w ∈ L ↔ ∃ a, Good a ∧ w = text a) :
    w ∈ L ^ n ↔ ∃ as : List α, as.length = n ∧ (∀ a ∈ as, Good a) ∧ w = as.flatMap text := by
  induction n generalizing w with
  | zero =>
    rw [pow_zero, Language.mem_one]
    constructor
    · rintro rfl
      exact ⟨[], rfl, nofun, rfl⟩
    · rintro ⟨as, hlength, -, rfl⟩
      rw [List.length_eq_zero_iff.1 hlength, List.flatMap_nil]
  | succ n ih =>
    rw [pow_succ', Language.mem_mul]
    constructor
    · rintro ⟨u, hu, v, hv, rfl⟩
      obtain ⟨a, ha, rfl⟩ := (hL u).1 hu
      obtain ⟨as, rfl, hgood, rfl⟩ := ih.1 hv
      exact ⟨a :: as, rfl, List.forall_mem_cons.2 ⟨ha, hgood⟩, List.flatMap_cons.symm⟩
    · rintro ⟨as, hlength, hgood, rfl⟩
      obtain ⟨a, as, rfl⟩ := List.exists_cons_of_length_eq_add_one hlength
      rw [List.forall_mem_cons] at hgood
      refine ⟨text a, (hL _).2 ⟨a, hgood.1, rfl⟩, as.flatMap text, ?_, List.flatMap_cons.symm⟩
      exact ih.2 ⟨as, Nat.succ.inj hlength, hgood.2, rfl⟩

/-- So are repeated texts, with a number of things that is within the bounds. -/
theorem mem_repeated_flatMap_iff {α : Type} {Good : α → Prop} {text : α → List Char}
    (hL : ∀ w, w ∈ L ↔ ∃ a, Good a ∧ w = text a) :
    w ∈ repeated lo hi L ↔
      ∃ as : List α, Within lo hi as.length ∧ (∀ a ∈ as, Good a) ∧ w = as.flatMap text := by
  constructor
  · rintro ⟨n, hwithin, hw⟩
    obtain ⟨as, rfl, hgood, rfl⟩ := (mem_pow_flatMap_iff hL).1 hw
    exact ⟨as, hwithin, hgood, rfl⟩
  · rintro ⟨as, hwithin, hgood, rfl⟩
    exact ⟨as.length, hwithin, (mem_pow_flatMap_iff hL).2 ⟨as, rfl, hgood, rfl⟩⟩

/-- Copies of single characters of one kind are the words of that many of them. -/
theorem mem_pow_iff {Member : Char → Prop} (hL : ∀ w, w ∈ L ↔ ∃ c, Member c ∧ w = [c]) :
    w ∈ L ^ n ↔ w.length = n ∧ ∀ c ∈ w, Member c := by
  rw [mem_pow_flatMap_iff hL]
  simp only [List.flatMap_singleton', exists_eq_right_right']

/-- Repeated characters of one kind are the words of them whose length is within the bounds. -/
theorem mem_repeated_iff {Member : Char → Prop} (hL : ∀ w, w ∈ L ↔ ∃ c, Member c ∧ w = [c]) :
    w ∈ repeated lo hi L ↔ Within lo hi w.length ∧ ∀ c ∈ w, Member c := by
  rw [mem_repeated_flatMap_iff hL]
  simp only [List.flatMap_singleton', exists_eq_right_right']

theorem accepts_empty : Re.empty.Accepts 1 := by
  intro before w after
  rw [Language.mem_one]
  constructor
  · rintro ⟨⟩
    rfl
  · rintro rfl
    exact .empty

theorem accepts_set (s : CharSet) : (Re.set s).Accepts s.words := by
  intro before w after
  constructor
  · intro hmatches
    cases hmatches with
    | set hmem => exact ⟨_, hmem, rfl⟩
  · rintro ⟨c, hmem, rfl⟩
    exact .set hmem

theorem Re.Accepts.seq (ha : a.Accepts K) (hb : b.Accepts L) : (Re.seq a b).Accepts (K * L) := by
  intro before w after
  rw [Language.mem_mul]
  constructor
  · intro hmatches
    cases hmatches with
    | seq hfirst hsecond => exact ⟨_, (ha ..).1 hfirst, _, (hb ..).1 hsecond, rfl⟩
  · rintro ⟨u, hu, v, hv, rfl⟩
    exact .seq ((ha ..).2 hu) ((hb ..).2 hv)

theorem Re.Accepts.alt (ha : a.Accepts K) (hb : b.Accepts L) : (Re.alt a b).Accepts (K + L) := by
  intro before w after
  rw [Language.mem_add]
  constructor
  · intro hmatches
    cases hmatches with
    | altLeft hleft => exact .inl ((ha ..).1 hleft)
    | altRight hright => exact .inr ((hb ..).1 hright)
  · rintro (hleft | hright)
    · exact .altLeft ((ha ..).2 hleft)
    · exact .altRight ((hb ..).2 hright)

theorem Re.Accepts.mem_repeated (hr : r.Accepts L) {e : Re} {before after : Option Char}
    (hmatches : Matches e before w after) :
    ∀ {lo hi}, e = .rep lo hi r → w ∈ repeated lo hi L := by
  induction hmatches with
  | repDone =>
    rintro lo hi ⟨⟩
    exact ⟨0, ⟨Nat.le_refl 0, fun most _ => Nat.zero_le most⟩, Language.nil_mem_one⟩
  | repMore hmore hfirst _ _ ih =>
    rintro lo hi ⟨⟩
    obtain ⟨n, hwithin, hrest⟩ := ih rfl
    refine ⟨n + 1, within_succ_iff.2 ⟨hmore, hwithin⟩, ?_⟩
    rw [pow_succ']
    exact Language.append_mem_mul ((hr ..).1 hfirst) hrest
  | empty | set | look | seq | altLeft | altRight =>
    intro lo hi heq
    cases heq

theorem Re.Accepts.matches_rep (hr : r.Accepts L) (n : Nat) : ∀ {lo hi before after w},
    Within lo hi n → w ∈ L ^ n → Matches (.rep lo hi r) before w after := by
  induction n with
  | zero =>
    rintro lo hi before after w ⟨hlo, -⟩ hw
    obtain rfl := Nat.le_zero.1 hlo
    obtain rfl : w = [] := hw
    exact .repDone
  | succ n ih =>
    intro lo hi before after w hwithin hw
    obtain ⟨hmore, hwithin⟩ := within_succ_iff.1 hwithin
    rw [pow_succ'] at hw
    obtain ⟨u, hu, v, hv, rfl⟩ := Language.mem_mul.1 hw
    exact .repMore hmore ((hr ..).2 hu) (ih hwithin hv)

theorem Re.Accepts.rep (hr : r.Accepts L) (lo : Nat) (hi : Option Nat) :
    (Re.rep lo hi r).Accepts (repeated lo hi L) := by
  intro before w after
  refine ⟨fun hmatches => hr.mem_repeated hmatches rfl, ?_⟩
  rintro ⟨n, hwithin, hw⟩
  exact hr.matches_rep n hwithin hw

/-! ## Written patterns -/

namespace Expr

/-- Whether the pattern has no anchors, switches no options, and all its classes have
a meaning. -/
def isPlain : Expr → Bool
  | empty | char _ | escapedByte _ | dot => true
  | cls c => (c.members {}).isSome
  | anchor _ | change _ => false
  | seq first second | alt first second => first.isPlain && second.isPlain
  | rep body _ _ | capture body => body.isPlain
  | group changes body => changes.isEmpty && body.isPlain

/-- The words of a plain pattern. -/
def words : Expr → Language Char
  | empty => 1
  | char c | escapedByte c => (Options.char {} c).words
  | dot => (Options.dot {}).words
  | cls c => ((c.members {}).getD .none).words
  | anchor _ | change _ => 0
  | seq first second => first.words * second.words
  | alt left right => left.words + right.words
  | rep body quantifier _ => repeated quantifier.bounds.1 quantifier.bounds.2 body.words
  | capture body | group _ body => body.words

theorem lower_seq {first second : Expr} {options options' options'' : Options}
    (hfirst : first.lower options = some (a, options'))
    (hsecond : second.lower options' = some (b, options'')) :
    (seq first second).lower options = some (.seq a b, options'') := by
  simp only [lower, hfirst, Option.bind_eq_bind, Option.bind_some, hsecond, Option.pure_def]

/-- A plain pattern accepts its words and leaves the options as they are. -/
theorem exists_lower_of_isPlain : ∀ {e : Expr}, e.isPlain = true →
    ∃ r, e.lower {} = some (r, {}) ∧ r.Accepts e.words := by
  intro e hplain
  induction e with
  | empty => exact ⟨_, rfl, accepts_empty⟩
  | char c | escapedByte c | dot => exact ⟨_, rfl, accepts_set _⟩
  | anchor a | change changes => cases hplain
  | cls c =>
    obtain ⟨s, hs⟩ := Option.isSome_iff_exists.1 hplain
    refine ⟨.set s, ?_, ?_⟩
    · rw [lower, hs]
      rfl
    · rw [words, hs]
      exact accepts_set s
  | seq first second ihf ihs =>
    rw [isPlain, Bool.and_eq_true] at hplain
    obtain ⟨a, hlower, ha⟩ := ihf hplain.1
    obtain ⟨b, hlower', hb⟩ := ihs hplain.2
    exact ⟨.seq a b, lower_seq hlower hlower', ha.seq hb⟩
  | alt left right ihl ihr =>
    rw [isPlain, Bool.and_eq_true] at hplain
    obtain ⟨a, hlower, ha⟩ := ihl hplain.1
    obtain ⟨b, hlower', hb⟩ := ihr hplain.2
    refine ⟨.alt a b, ?_, ha.alt hb⟩
    simp only [lower, hlower, Option.bind_eq_bind, Option.bind_some, hlower', Option.pure_def]
  | rep body quantifier reluctant ih =>
    obtain ⟨r, hlower, hr⟩ := ih hplain
    refine ⟨.rep quantifier.bounds.1 quantifier.bounds.2 r, ?_, hr.rep _ _⟩
    simp only [lower, hlower]
    rfl
  | capture body ih =>
    obtain ⟨r, hlower, hr⟩ := ih hplain
    refine ⟨r, ?_, hr⟩
    simp only [lower, hlower]
    rfl
  | group changes body ih =>
    rw [isPlain, Bool.and_eq_true, List.isEmpty_iff] at hplain
    obtain ⟨rfl, hbody⟩ := hplain
    obtain ⟨r, hlower, hr⟩ := ih hbody
    refine ⟨r, ?_, hr⟩
    simp only [lower, Options.apply, List.foldl_nil, hlower]
    rfl

/-! ## Patterns for the whole text -/

/-- A switch of options at the start of a pattern takes no text. -/
theorem occurs_empty_seq_iff {text : List Char} : Occurs (.seq .empty r) text ↔ Occurs r text := by
  constructor
  · rintro ⟨pre, w, post, rfl, hmatches⟩
    cases hmatches with
    | seq hfirst hsecond =>
      cases hfirst
      exact ⟨pre, _, post, rfl, hsecond⟩
  · rintro ⟨pre, w, post, rfl, hmatches⟩
    exact ⟨pre, w, post, rfl, .seq (u := []) .empty hmatches⟩

theorem occurs_between_ends_iff {text : List Char} (hr : r.Accepts L) :
    Occurs (.seq (.look .textStart) (.seq r (.look .textEnd))) text ↔ text ∈ L := by
  constructor
  · rintro ⟨pre, w, post, rfl, hmatches⟩
    cases hmatches with
    | seq hstart hrest =>
      cases hstart with
      | look hstart =>
        cases hrest with
        | seq hword hend =>
          cases hend with
          | look hend =>
            simp only [Look.holds, Option.isNone_iff_eq_none, List.getLast?_eq_none_iff,
              List.head?_eq_none_iff] at hstart hend
            subst hstart hend
            simpa using (hr ..).1 hword
  · intro htext
    refine ⟨[], text, [], by simp, ?_⟩
    have hword : Matches (.seq r (.look .textEnd)) none (text ++ []) none :=
      .seq ((hr ..).2 htext) (.look rfl)
    rw [List.append_nil] at hword
    exact .seq (u := []) (.look rfl) hword

/-- What is compiled of a pattern of the library is what it is lowered to. -/
theorem exists_lower_of_build? {e : Expr} {p : Pattern} (hbuild : Pattern.build? e = some p) :
    ∃ options, e.lower {} = some (p.core, options) := by
  unfold Pattern.build? Pattern.compile? at hbuild
  obtain ⟨⟨core, options⟩, hlower, hbuild⟩ := Option.bind_eq_some_iff.1 hbuild
  obtain ⟨-, heq⟩ := Option.ite_none_right_eq_some.1 hbuild
  cases heq
  exact ⟨options, hlower⟩

/-- A plain pattern for the whole text finds the texts in its language. -/
theorem occursIn_iff_mem_words {e : Expr} (hplain : e.isPlain = true) {p : Pattern}
    (hbuild : Pattern.build? (.whole e) = some p) (text : String) :
    p.occursIn text = true ↔ text.toList ∈ e.words := by
  obtain ⟨r, hlower, hr⟩ := exists_lower_of_isPlain hplain
  have hwhole : (Expr.whole e).lower {} =
      some (.seq (.look .textStart) (.seq r (.look .textEnd)), {}) :=
    lower_seq rfl (lower_seq hlower rfl)
  obtain ⟨options, hcore⟩ := exists_lower_of_build? hbuild
  rw [hwhole, Option.some.injEq, Prod.mk.injEq] at hcore
  rw [Pattern.occursIn, ← hcore.1, Re.occursIn_iff, occurs_between_ends_iff hr]

end Expr

/-! ## Sets of characters -/

theorem CharSet.contains_variants_iff :
    (CharSet.variants s).contains c = true ↔
      ∃ d, s.contains d = true ∧ simpleFold d = simpleFold c := by
  rw [contains, List.any_eq_true]
  simp only [mem_variants_iff, and_comm]

theorem CharSet.contains_interval_iff {first last : Char} :
    (CharSet.interval first last).contains c = true ↔
      first.toNat ≤ c.toNat ∧ c.toNat ≤ last.toNat := by
  rw [interval, contains, Ranges.contains, Ranges.contains]
  split
  · simp
    omega
  · split
    · simp
      omega
    · simp
      omega

theorem CharSet.contains_single_iff {d : Char} :
    (CharSet.single d).contains c = true ↔ c = d := by
  have hinterval : (CharSet.interval d d).contains c = true ↔
      d.toNat ≤ c.toNat ∧ c.toNat ≤ d.toNat := contains_interval_iff
  rw [CharSet.single, ← CharSet.interval, hinterval, ← Char.toNat_inj]
  omega

/-! ## Classes -/

namespace Expr

/-- The words of the pattern are the single characters of one kind. -/
def IsClass (e : Expr) (Member : Char → Prop) : Prop :=
  ∀ w, w ∈ e.words ↔ ∃ c, Member c ∧ w = [c]

theorem isClass_char (c : Char) : IsClass (char c) fun d => simpleFold c = simpleFold d := by
  intro w
  constructor
  · rintro ⟨d, hmem, rfl⟩
    obtain ⟨d', hd', hfold⟩ := CharSet.contains_variants_iff.1 hmem
    obtain rfl := CharSet.contains_single_iff.1 hd'
    exact ⟨d, hfold, rfl⟩
  · rintro ⟨d, hfold, rfl⟩
    exact ⟨d, CharSet.contains_variants_iff.2 ⟨c, CharSet.contains_single_iff.2 rfl, hfold⟩, rfl⟩

theorem isClass_char_of_lt (hc : c.toNat < 'A'.toNat) : IsClass (char c) (· = c) := by
  intro w
  rw [isClass_char c w]
  simp only [simpleFold_eq_iff_of_lt hc, eq_comm]

/-- A class has the members of its items. -/
theorem members_oneOf {α : Type} (items : List α) {item : α → ClassExpr} {set : α → CharSet}
    (hitem : ∀ a, (item a).members {} = some (set a)) :
    ∃ s : CharSet, ClassExpr.members {} ((items.map item).foldr .union .nothing) = some s ∧
      ∀ c, s.contains c = true ↔ ∃ a ∈ items, (set a).contains c = true := by
  induction items with
  | nil => exact ⟨.none, rfl, fun c => by simp [CharSet.none, CharSet.contains, Ranges.contains]⟩
  | cons head rest ih =>
    obtain ⟨s, hs, hmem⟩ := ih
    refine ⟨.union (set head) s, ?_, fun c => ?_⟩
    · rw [List.map_cons, List.foldr_cons, ClassExpr.members, hs, hitem]
      rfl
    · rw [CharSet.contains, Bool.or_eq_true, hmem, List.exists_mem_cons_iff]

/-- A class has the case variants of what its items have. -/
theorem isClass_oneOf {α : Type} (items : List α) {item : α → ClassExpr} {set : α → CharSet}
    (hitem : ∀ a, (item a).members {} = some (set a)) :
    IsClass (oneOf (items.map item)) fun c =>
      ∃ d, (∃ a ∈ items, (set a).contains d = true) ∧ simpleFold d = simpleFold c := by
  intro w
  obtain ⟨s, hs, hmem⟩ := members_oneOf items hitem
  have hmembers : ClassExpr.members {} (.bracket false ((items.map item).foldr .union .nothing)) =
      some (.variants s) := by
    rw [ClassExpr.members, hs]
    rfl
  rw [oneOf, words, hmembers, Option.getD_some, CharSet.mem_words_iff]
  simp only [CharSet.contains_variants_iff, hmem]

theorem isClass_oneOf_chars (cs : List Char) :
    IsClass (oneOf (cs.map .char)) fun c => ∃ d ∈ cs, simpleFold d = simpleFold c := by
  intro w
  rw [isClass_oneOf cs (fun _ => rfl) w]
  simp only [CharSet.contains_single_iff, exists_eq_right']

theorem isClass_oneOf_chars_of_lt (cs : List Char) (hcs : ∀ c ∈ cs, c.toNat < 'A'.toNat) :
    IsClass (oneOf (cs.map .char)) (· ∈ cs) := by
  intro w
  rw [isClass_oneOf_chars cs w]
  constructor
  · rintro ⟨c, ⟨d, hd, hfold⟩, rfl⟩
    obtain rfl := (simpleFold_eq_iff_of_lt (hcs d hd)).1 hfold
    exact ⟨d, hd, rfl⟩
  · rintro ⟨c, hc, rfl⟩
    exact ⟨c, ⟨c, hc, rfl⟩, rfl⟩

/-- A class of several intervals has the case variants of what is between their ends. -/
theorem isClass_oneOf_intervals (ranges : List (Char × Char)) :
    IsClass (oneOf (ranges.map fun range => .interval range.1 range.2)) fun c =>
      ∃ d, (∃ range ∈ ranges, range.1.toNat ≤ d.toNat ∧ d.toNat ≤ range.2.toNat) ∧
        simpleFold d = simpleFold c := by
  intro w
  rw [isClass_oneOf ranges (fun _ => rfl) w]
  simp only [CharSet.contains_interval_iff]

theorem isClass_oneOf_interval_of_lt {first last : Char} (hlast : last.toNat < 'A'.toNat) :
    IsClass (oneOf [.interval first last]) fun c =>
      first.toNat ≤ c.toNat ∧ c.toNat ≤ last.toNat := by
  intro w
  refine (isClass_oneOf_intervals [(first, last)] w).trans ?_
  simp only [List.mem_singleton, exists_eq_left]
  constructor
  · rintro ⟨c, ⟨d, hd, hfold⟩, rfl⟩
    obtain rfl := (simpleFold_eq_iff_of_lt (hd.2.trans_lt hlast)).1 hfold
    exact ⟨d, hd, rfl⟩
  · rintro ⟨c, hc, rfl⟩
    exact ⟨c, ⟨c, hc, rfl⟩, rfl⟩

theorem isClass_digit : IsClass digit (CharSet.digit.contains · = true) :=
  fun _ => Iff.rfl

/-! ## Sequences and repetitions -/

variable {first second e : Expr} {First Second Member : Char → Prop} {reluctant : Bool}

theorem mem_words_seq_iff :
    w ∈ (seq first second).words ↔ ∃ u ∈ first.words, ∃ v ∈ second.words, u ++ v = w :=
  Language.mem_mul

theorem mem_words_alt_iff :
    w ∈ (alt first second).words ↔ w ∈ first.words ∨ w ∈ second.words :=
  Language.mem_add first.words second.words w

theorem mem_words_optional_iff :
    w ∈ (rep e .optional reluctant).words ↔ w = [] ∨ w ∈ e.words := by
  constructor
  · rintro ⟨n, ⟨-, hn⟩, hw⟩
    have hle := hn 1 rfl
    obtain rfl | rfl : n = 0 ∨ n = 1 := by omega
    · exact .inl hw
    · rw [pow_one] at hw
      exact .inr hw
  · rintro (rfl | hw)
    · exact ⟨0, ⟨Nat.le_refl 0, fun most _ => Nat.zero_le most⟩, Language.nil_mem_one⟩
    · refine ⟨1, ⟨Nat.zero_le 1, ?_⟩, by rwa [pow_one]⟩
      rintro most ⟨⟩
      exact Nat.le_refl 1

theorem mem_words_exactly_iff : w ∈ (rep e (.exactly n) reluctant).words ↔ w ∈ e.words ^ n := by
  constructor
  · rintro ⟨m, ⟨hle, hge⟩, hw⟩
    obtain rfl : m = n := Nat.le_antisymm (hge n rfl) hle
    exact hw
  · intro hw
    refine ⟨n, ⟨Nat.le_refl n, ?_⟩, hw⟩
    rintro most ⟨⟩
    exact Nat.le_refl n

/-- A character of a class, and then a word. -/
theorem IsClass.mem_words_seq_iff (hfirst : first.IsClass First) :
    w ∈ (seq first second).words ↔ ∃ c v, First c ∧ v ∈ second.words ∧ w = c :: v := by
  rw [Expr.mem_words_seq_iff]
  constructor
  · intro hwords
    rcases hwords with ⟨u, hu, v, hv, rfl⟩
    obtain ⟨c, hc, rfl⟩ := (hfirst u).1 hu
    exact ⟨c, v, hc, hv, rfl⟩
  · intro hshape
    rcases hshape with ⟨c, v, hc, hv, rfl⟩
    exact ⟨[c], (hfirst [c]).2 ⟨c, hc, rfl⟩, v, hv, rfl⟩

theorem IsClass.mem_words_pair_iff (hfirst : first.IsClass First)
    (hsecond : second.IsClass Second) :
    w ∈ (seq first second).words ↔ ∃ c d, First c ∧ Second d ∧ w = [c, d] := by
  rw [hfirst.mem_words_seq_iff]
  constructor
  · intro hwords
    rcases hwords with ⟨c, v, hc, hv, rfl⟩
    obtain ⟨d, hd, rfl⟩ := (hsecond v).1 hv
    exact ⟨c, d, hc, hd, rfl⟩
  · intro hshape
    rcases hshape with ⟨c, d, hc, hd, rfl⟩
    exact ⟨c, [d], hc, (hsecond [d]).2 ⟨d, hd, rfl⟩, rfl⟩

/-- Two characters, the first of which may be missing. -/
theorem IsClass.mem_words_optional_pair_iff (hfirst : first.IsClass First)
    (hsecond : second.IsClass Second) :
    w ∈ (seq (rep first .optional reluctant) second).words ↔
      ∃ d, Second d ∧ (w = [d] ∨ ∃ c, First c ∧ w = [c, d]) := by
  simp only [Expr.mem_words_seq_iff, mem_words_optional_iff]
  constructor
  · intro hwords
    rcases hwords with ⟨u, hu, v, hv, rfl⟩
    obtain ⟨d, hd, rfl⟩ := (hsecond v).1 hv
    rcases hu with rfl | hu
    · exact ⟨d, hd, .inl rfl⟩
    · obtain ⟨c, hc, rfl⟩ := (hfirst u).1 hu
      exact ⟨d, hd, .inr ⟨c, hc, rfl⟩⟩
  · intro hshape
    rcases hshape with ⟨d, hd, rfl | ⟨c, hc, rfl⟩⟩
    · exact ⟨[], .inl rfl, [d], (hsecond [d]).2 ⟨d, hd, rfl⟩, rfl⟩
    · exact ⟨[c], .inr ((hfirst [c]).2 ⟨c, hc, rfl⟩), [d], (hsecond [d]).2 ⟨d, hd, rfl⟩, rfl⟩

theorem IsClass.mem_words_pow_iff (he : e.IsClass Member) :
    w ∈ e.words ^ n ↔ w.length = n ∧ ∀ c ∈ w, Member c :=
  mem_pow_iff he

theorem IsClass.mem_words_exactly_iff (he : e.IsClass Member) :
    w ∈ (rep e (.exactly n) reluctant).words ↔ w.length = n ∧ ∀ c ∈ w, Member c := by
  rw [Expr.mem_words_exactly_iff, he.mem_words_pow_iff]

/-! ## Sequences and choices of many patterns -/

variable {es : List Expr}

theorem words_seqOf_cons (e : Expr) (es : List Expr) :
    (seqOf (e :: es)).words = e.words * (seqOf es).words := by
  cases es with
  | nil => exact (mul_one e.words).symm
  | cons e' es => rfl

theorem mem_words_altOf_iff (hne : es ≠ []) : w ∈ (altOf es).words ↔ ∃ e ∈ es, w ∈ e.words := by
  induction es with
  | nil => exact absurd rfl hne
  | cons e es ih =>
    cases es with
    | nil => simp [altOf]
    | cons e' es =>
      show w ∈ (alt e (altOf (e' :: es))).words ↔ _
      rw [mem_words_alt_iff, ih (List.cons_ne_nil e' es), List.exists_mem_cons_iff (a := e)]

/-- What holds of the elements and is kept by sequences holds of the sequence of them all. -/
theorem seqOf_induction {P : Expr → Prop} (hempty : P empty)
    (hseq : ∀ {first second}, P first → P second → P (seq first second))
    (hes : ∀ e ∈ es, P e) : P (seqOf es) := by
  induction es with
  | nil => exact hempty
  | cons e es ih =>
    rw [List.forall_mem_cons] at hes
    cases es with
    | nil => exact hes.1
    | cons e' es => exact hseq hes.1 (ih hes.2)

/-- So it is for choices. -/
theorem altOf_induction {P : Expr → Prop} (hempty : P empty)
    (halt : ∀ {left right}, P left → P right → P (alt left right))
    (hes : ∀ e ∈ es, P e) : P (altOf es) := by
  induction es with
  | nil => exact hempty
  | cons e es ih =>
    rw [List.forall_mem_cons] at hes
    cases es with
    | nil => exact hes.1
    | cons e' es => exact halt hes.1 (ih hes.2)

theorem isPlain_seqOf (hplain : ∀ e ∈ es, e.isPlain = true) : (seqOf es).isPlain = true := by
  refine seqOf_induction (P := (isPlain · = true)) rfl ?_ hplain
  intro first second hfirst hsecond
  rw [isPlain, hfirst, hsecond, Bool.and_self]

theorem isPlain_altOf (hplain : ∀ e ∈ es, e.isPlain = true) : (altOf es).isPlain = true := by
  refine altOf_induction (P := (isPlain · = true)) rfl ?_ hplain
  intro left right hleft hright
  rw [isPlain, hleft, hright, Bool.and_self]

/-- The words of a word are as long as it, and have the same characters but for their case. -/
theorem mem_words_word_iff {u : List Char} :
    w ∈ (word u).words ↔ List.Forall₂ (fun c d => simpleFold c = simpleFold d) u w := by
  induction u generalizing w with
  | nil =>
    rw [List.forall₂_nil_left_iff]
    exact Language.mem_one w
  | cons c u ih =>
    rw [word, List.map_cons, words_seqOf_cons, ← word, Language.mem_mul, List.forall₂_cons_left_iff]
    constructor
    · rintro ⟨u', hu', v, hv, rfl⟩
      obtain ⟨d, hd, rfl⟩ := (isClass_char c u').1 hu'
      exact ⟨d, v, hd, ih.1 hv, rfl⟩
    · rintro ⟨d, v, hd, hv, rfl⟩
      exact ⟨[d], (isClass_char c [d]).2 ⟨d, hd, rfl⟩, v, ih.2 hv, rfl⟩

end Expr

end FieldRules.Pattern
