import FieldRules.Proofs.CountedCharacters
import FieldRules.Proofs.Numerals

/-!
# Addresses

The pattern of addresses with groups lists, in nine alternatives, how many groups may stand
before a gap and behind it.  Each alternative is a front that ends with a colon and a back that
starts with one; together they let through every gap that stands for a group at least.

The pattern of addresses with octets knows the digits of every script in some places of an
octet.  Among the texts of dots and ASCII digits it accepts the addresses and nothing else.

* `mem_words_joinedBy_iff`: the words of a pattern for so many parts with separators.
* `exists_hexVariant_iff`: the case variants of hexadecimal digits.
* `SpellsGroups.seq`, `SpellsGaps.alt`: which gaps the alternatives let through.
* `accepts_ipv6_iff`: what the rule for addresses with groups accepts.
* `IsOctet`, `LooseOctet`, `isOctet_iff`: octets as numbers and as the pattern knows them.
* `accepts_ipv4_iff`: what the rule for addresses with octets accepts.
-/

namespace FieldRules.Rule

open Text Pattern Expr Patterns Unicode CaseFold

variable {w : List Char} {e : Expr} {n : Nat}

/-! ## Joined parts -/

/-- The parts with a separator between them. -/
def joinedBy (sep : Char) (parts : List (List Char)) : List Char :=
  [sep].intercalate parts

theorem joinedBy_singleton (sep : Char) (part : List Char) : joinedBy sep [part] = part :=
  List.intercalate_singleton

theorem flatMap_append_eq {parts : List (List Char)} (hne : parts ≠ []) (sep : Char) :
    parts.flatMap (· ++ [sep]) = joinedBy sep parts ++ [sep] := by
  rw [← List.dropLast_concat_getLast hne, joinedBy, intercalate_append_cons_eq, List.flatMap_append,
    List.flatMap_nil, List.append_nil, List.flatMap_singleton, List.append_assoc]

theorem flatMap_cons_eq {parts : List (List Char)} (hne : parts ≠ []) (sep : Char) :
    parts.flatMap (sep :: ·) = sep :: joinedBy sep parts := by
  obtain ⟨part, parts, rfl⟩ := List.exists_cons_of_ne_nil hne
  rw [joinedBy, intercalate_cons_eq, List.flatMap_cons, List.cons_append]

theorem joinedBy_concat (sep : Char) (parts : List (List Char)) (last : List Char) :
    joinedBy sep (parts ++ [last]) = parts.flatMap (· ++ [sep]) ++ last := by
  rw [joinedBy, intercalate_append_cons_eq, List.flatMap_nil, List.append_nil]

theorem eq_or_mem_of_mem_joinedBy {sep c : Char} {parts : List (List Char)}
    (hmem : c ∈ joinedBy sep parts) : c = sep ∨ ∃ part ∈ parts, c ∈ part := by
  cases parts with
  | nil => cases hmem
  | cons first parts =>
    rw [joinedBy, intercalate_cons_eq, List.mem_append, List.mem_flatMap] at hmem
    rcases hmem with hfirst | ⟨part, hpart, hmem⟩
    · exact .inr ⟨first, List.mem_cons_self, hfirst⟩
    · rcases List.mem_cons.1 hmem with heq | hmem
      · exact .inl heq
      · exact .inr ⟨part, List.mem_cons_of_mem first hpart, hmem⟩

theorem subset_joinedBy {part : List Char} {parts : List (List Char)} (hpart : part ∈ parts)
    (sep : Char) : part ⊆ joinedBy sep parts := by
  intro c hc
  obtain ⟨before, after, rfl⟩ := List.append_of_mem hpart
  rw [joinedBy, intercalate_append_cons_eq]
  exact List.mem_append_right _ (List.mem_append_left _ hc)

/-- So many parts with a separator behind each, and one more, are joined parts. -/
theorem mem_words_joinedBy_iff {part mark : Expr} {Part : List Char → Prop} {sep : Char}
    (hpart : ∀ w, w ∈ part.words ↔ Part w) (hmark : ∀ w, w ∈ mark.words ↔ w = [sep]) :
    w ∈ (Expr.seq (times n (.capture (.seq part mark))) part).words ↔
      ∃ parts : List (List Char), parts.length = n + 1 ∧ (∀ u ∈ parts, Part u) ∧
        w = joinedBy sep parts := by
  have hclosed : ∀ u, u ∈ (Expr.seq part mark).words ↔ ∃ v, Part v ∧ u = v ++ [sep] := by
    intro u
    simp only [mem_words_seq_iff, hpart, hmark, exists_eq_left, eq_comm]
  have hfront : ∀ u, u ∈ (times n (.capture (.seq part mark))).words ↔
      ∃ parts : List (List Char), parts.length = n ∧ (∀ v ∈ parts, Part v) ∧
        u = parts.flatMap (· ++ [sep]) := by
    intro u
    rw [times, mem_words_exactly_iff]
    exact mem_pow_flatMap_iff hclosed
  rw [mem_words_seq_iff]
  constructor
  · rintro ⟨u, hu, last, hlast, rfl⟩
    obtain ⟨parts, hlength, hparts, rfl⟩ := (hfront u).1 hu
    refine ⟨parts ++ [last], by simp [hlength], ?_, (joinedBy_concat sep parts last).symm⟩
    exact List.forall_mem_append.2 ⟨hparts, List.forall_mem_singleton.2 ((hpart last).1 hlast)⟩
  · rintro ⟨parts, hlength, hparts, rfl⟩
    have hne : parts ≠ [] := List.length_pos_iff.1 (by omega)
    obtain ⟨parts, last, rfl⟩ := (List.eq_nil_or_concat' parts).resolve_left hne
    rw [List.forall_mem_append, List.forall_mem_singleton] at hparts
    refine ⟨_, (hfront _).2 ⟨parts, ?_, hparts.1, rfl⟩, last, (hpart last).2 hparts.2,
      (joinedBy_concat sep parts last).symm⟩
    simpa using hlength

/-! ## Hexadecimal digits -/

theorem isHexDigit_iff {c : Char} : isHexDigit c = true ↔
    (48 ≤ c.toNat ∧ c.toNat ≤ 57) ∨ (97 ≤ c.toNat ∧ c.toNat ≤ 102) ∨
      (65 ≤ c.toNat ∧ c.toNat ≤ 70) := by
  simp only [isHexDigit, Bool.or_eq_true, Bool.and_eq_true, decide_eq_true_iff, isDigit_iff,
    or_assoc, Char.le_def, UInt32.le_iff_toNat_le]
  rfl

/-- The letters of either case fold to the small ones, and no other characters do. -/
theorem exists_hexVariant_iff {c : Char} :
    (∃ d : Char, (∃ range ∈ [('0', '9'), ('a', 'f')],
      range.1.toNat ≤ d.toNat ∧ d.toNat ≤ range.2.toNat) ∧ simpleFold d = simpleFold c) ↔
    isHexDigit c = true := by
  have hsmall : ∀ d : Char, 97 ≤ d.toNat → d.toNat ≤ 102 →
      (variants d).all isHexDigit = true :=
    forall_of_interval (by decide +kernel)
  have hlarge : ∀ c : Char, 65 ≤ c.toNat → c.toNat ≤ 70 →
      simpleFold (Char.ofNat (c.toNat + 32)) = simpleFold c :=
    forall_of_interval (by decide +kernel)
  simp only [List.exists_mem_cons_iff, List.not_mem_nil, false_and, exists_false, or_false]
  constructor
  · rintro ⟨d, hrange, hfold⟩
    rcases hrange with ⟨hlow, hhigh⟩ | ⟨hlow, hhigh⟩
    · obtain rfl := (simpleFold_eq_iff_of_lt (hhigh.trans_lt (by decide))).1 hfold
      exact isHexDigit_iff.2 (.inl ⟨hlow, hhigh⟩)
    · have hvariants := hsmall d hlow hhigh
      rw [List.all_eq_true] at hvariants
      exact hvariants c (mem_variants_iff.2 hfold.symm)
  · intro hhex
    rcases isHexDigit_iff.1 hhex with hdigit | hletter | ⟨hlow, hhigh⟩
    · exact ⟨c, .inl hdigit, rfl⟩
    · exact ⟨c, .inr hletter, rfl⟩
    · have hvalid : (c.toNat + 32).isValidChar := .inl (by omega)
      refine ⟨Char.ofNat (c.toNat + 32), .inr ?_, hlarge c hlow hhigh⟩
      rw [toNat_ofNat hvalid]
      exact ⟨Nat.add_le_add_right hlow 32, Nat.add_le_add_right hhigh 32⟩

/-! ## Groups -/

/-- One to four hexadecimal digits. -/
def IsGroup (w : List Char) : Prop :=
  1 ≤ w.length ∧ w.length ≤ 4 ∧ ∀ c ∈ w, isHexDigit c = true

instance : Decidable (IsGroup w) :=
  decidable_of_iff (1 ≤ w.length ∧ w.length ≤ 4 ∧ w.all isHexDigit = true) (by simp [IsGroup])

/-- Eight groups with colons between them, or at most seven with a gap somewhere. -/
inductive IsIPv6 : List Char → Prop
  | full {groups : List (List Char)} (hgroups : ∀ g ∈ groups, IsGroup g)
      (hlength : groups.length = 8) : IsIPv6 (joinedBy ':' groups)
  | gap {before after : List (List Char)} (hgroups : ∀ g ∈ before ++ after, IsGroup g)
      (hlength : before.length + after.length ≤ 7) :
      IsIPv6 (joinedBy ':' before ++ "::".toList ++ joinedBy ':' after)

theorem mem_hexGroup_iff : w ∈ hexGroup.words ↔ IsGroup w := by
  have hclass : IsClass (oneOf [.interval '0' '9', .interval 'a' 'f']) (isHexDigit · = true) := by
    intro w
    simp only [← exists_hexVariant_iff]
    exact isClass_oneOf_intervals [('0', '9'), ('a', 'f')] w
  rw [hexGroup, Patterns.between, Expr.words, mem_repeated_iff hclass, IsGroup]
  simp [Within, Quantifier.bounds, and_assoc]

theorem isClass_colon : IsClass (Patterns.word ":") (· = ':') :=
  isClass_char_of_lt (by decide)

theorem mem_colon_iff : w ∈ (Patterns.word ":").words ↔ w = [':'] :=
  (isClass_colon w).trans (by simp)

/-! ## Fronts and backs -/

/-- Groups before a gap: each has a colon behind it, and no groups leave a single colon. -/
def frontText (groups : List (List Char)) : List Char :=
  joinedBy ':' groups ++ [':']

/-- Groups behind a gap: each has a colon before it, and no groups leave a single colon. -/
def backText (groups : List (List Char)) : List Char :=
  ':' :: joinedBy ':' groups

/-- The words of the pattern are the texts of so many groups. -/
def SpellsGroups (e : Expr) (text : List (List Char) → List Char) (Count : Nat → Prop) : Prop :=
  ∀ w, w ∈ e.words ↔ ∃ groups : List (List Char), Count groups.length ∧
    (∀ g ∈ groups, IsGroup g) ∧ w = text groups

/-- The words of the pattern have a gap, with so many groups before it and so many behind it. -/
def SpellsGaps (e : Expr) (Counts : Nat → Nat → Prop) : Prop :=
  ∀ w, w ∈ e.words ↔ ∃ before after : List (List Char), Counts before.length after.length ∧
    (∀ g ∈ before ++ after, IsGroup g) ∧
      w = joinedBy ':' before ++ "::".toList ++ joinedBy ':' after

section

variable {text : List (List Char) → List Char}

theorem spellsGroups_one (he : ∀ w, w ∈ e.words ↔ ∃ g, IsGroup g ∧ w = text [g]) :
    SpellsGroups e text (· = 1) := by
  intro w
  rw [he w]
  constructor
  · rintro ⟨g, hg, rfl⟩
    exact ⟨[g], rfl, List.forall_mem_singleton.2 hg, rfl⟩
  · rintro ⟨groups, hcount, hgroups, rfl⟩
    obtain ⟨g, rfl⟩ := List.length_eq_one_iff.1 hcount
    exact ⟨g, hgroups g List.mem_cons_self, rfl⟩

theorem spellsGroups_between (he : ∀ w, w ∈ e.words ↔ ∃ g, IsGroup g ∧ w = text [g])
    (htext : ∀ groups, groups ≠ [] → groups.flatMap (fun g => text [g]) = text groups) (n : Nat) :
    SpellsGroups (Patterns.between 1 n (.capture e)) text fun k => 1 ≤ k ∧ k ≤ n := by
  intro w
  show w ∈ repeated 1 (some n) e.words ↔ _
  rw [mem_repeated_flatMap_iff he]
  simp only [Within, Option.mem_def, Option.some.injEq, forall_eq']
  refine exists_congr fun groups => and_congr_right fun hcount => ?_
  rw [htext groups (List.length_pos_iff.1 hcount.1)]

end

theorem mem_front_iff : w ∈ (Expr.seq hexGroup (Patterns.word ":")).words ↔
    ∃ g, IsGroup g ∧ w = frontText [g] := by
  simp only [mem_words_seq_iff, mem_hexGroup_iff, mem_colon_iff, exists_eq_left, frontText,
    joinedBy_singleton, eq_comm]

theorem mem_back_iff : w ∈ (Expr.seq (Patterns.word ":") hexGroup).words ↔
    ∃ g, IsGroup g ∧ w = backText [g] := by
  simp only [mem_words_seq_iff, mem_hexGroup_iff, mem_colon_iff, exists_eq_left, backText,
    joinedBy_singleton, List.singleton_append, eq_comm]

theorem flatMap_frontText {groups : List (List Char)} (hne : groups ≠ []) :
    groups.flatMap (fun g => frontText [g]) = frontText groups := by
  simp only [frontText, joinedBy_singleton]
  exact flatMap_append_eq hne ':'

theorem flatMap_backText {groups : List (List Char)} (hne : groups ≠ []) :
    groups.flatMap (fun g => backText [g]) = backText groups := by
  simp only [backText, joinedBy_singleton]
  exact flatMap_cons_eq hne ':'

theorem front_zero : SpellsGroups (Patterns.word ":") frontText (· = 0) := by
  intro w
  simp [mem_colon_iff, frontText, joinedBy]

theorem back_zero : SpellsGroups (Patterns.word ":") backText (· = 0) := by
  intro w
  simp [mem_colon_iff, backText, joinedBy]

theorem front_one : SpellsGroups (.seq hexGroup (Patterns.word ":")) frontText (· = 1) :=
  spellsGroups_one fun _ => mem_front_iff

theorem back_one : SpellsGroups (.seq (Patterns.word ":") hexGroup) backText (· = 1) :=
  spellsGroups_one fun _ => mem_back_iff

theorem front_between (n : Nat) :
    SpellsGroups (Patterns.between 1 n (.capture (.seq hexGroup (Patterns.word ":")))) frontText
      fun k => 1 ≤ k ∧ k ≤ n :=
  spellsGroups_between (fun _ => mem_front_iff) (fun _ => flatMap_frontText) n

theorem back_between (n : Nat) :
    SpellsGroups (Patterns.between 1 n (.capture (.seq (Patterns.word ":") hexGroup))) backText
      fun k => 1 ≤ k ∧ k ≤ n :=
  spellsGroups_between (fun _ => mem_back_iff) (fun _ => flatMap_backText) n

/-- Groups, or the colon that stands for none. -/
theorem back_choice (n : Nat) :
    SpellsGroups (.capture (.alt (Patterns.between 1 n (.capture (.seq (Patterns.word ":")
      hexGroup))) (Patterns.word ":"))) backText (· ≤ n) := by
  intro w
  rw [Expr.words, mem_words_alt_iff, back_between n w, back_zero w, ← exists_or]
  refine exists_congr fun groups => ?_
  rw [← or_and_right]
  refine and_congr_left fun _ => ?_
  omega

/-! ## Gaps -/

section

variable {a b c : Expr} {P Q : Nat → Nat → Prop}

/-- A front and a back meet in a gap. -/
theorem SpellsGroups.seq {Front Back : Nat → Prop} (hfront : SpellsGroups a frontText Front)
    (hback : SpellsGroups b backText Back) :
    SpellsGaps (.seq a b) fun n m => Front n ∧ Back m := by
  intro w
  rw [mem_words_seq_iff]
  constructor
  · rintro ⟨u, hu, v, hv, rfl⟩
    obtain ⟨before, hbefore, hgroups, rfl⟩ := (hfront u).1 hu
    obtain ⟨after, hafter, hgroups', rfl⟩ := (hback v).1 hv
    refine ⟨before, after, ⟨hbefore, hafter⟩, List.forall_mem_append.2 ⟨hgroups, hgroups'⟩, ?_⟩
    simp [frontText, backText]
  · rintro ⟨before, after, ⟨hbefore, hafter⟩, hgroups, rfl⟩
    rw [List.forall_mem_append] at hgroups
    refine ⟨_, (hfront _).2 ⟨before, hbefore, hgroups.1, rfl⟩, _,
      (hback _).2 ⟨after, hafter, hgroups.2, rfl⟩, ?_⟩
    simp [frontText, backText]

theorem SpellsGaps.alt (hleft : SpellsGaps a P) (hright : SpellsGaps b Q) :
    SpellsGaps (.alt a b) fun n m => P n m ∨ Q n m := by
  intro w
  rw [mem_words_alt_iff, hleft w, hright w]
  simp only [or_and_right, exists_or]

theorem SpellsGaps.assoc (hgaps : SpellsGaps (.seq (.seq a b) c) P) :
    SpellsGaps (.seq a (.seq b c)) P := by
  intro w
  rw [← hgaps w, Expr.words, Expr.words, Expr.words, Expr.words, mul_assoc]

theorem SpellsGaps.congr (hgaps : SpellsGaps a P) (hcounts : ∀ n m, P n m ↔ Q n m) :
    SpellsGaps a Q := by
  intro w
  simp only [hgaps w, hcounts]

end

/-- The eight alternatives with a gap let through every gap that leaves at most seven groups. -/
theorem exists_gaps_ipv6 : ∃ gaps, Patterns.ipv6 = .whole (.capture
      (.alt (.seq (times 7 (.capture (.seq hexGroup (Patterns.word ":")))) hexGroup) gaps)) ∧
    gaps.isPlain = true ∧ SpellsGaps gaps fun n m => n + m ≤ 7 := by
  -- one line for each alternative, in their order; in the seventh the front is a single group
  have hgaps := ((front_between 7).seq back_zero).alt
    (((front_between 6).seq back_one).alt
    (((front_between 5).seq (back_between 2)).alt
    (((front_between 4).seq (back_between 3)).alt
    (((front_between 3).seq (back_between 4)).alt
    (((front_between 2).seq (back_between 5)).alt
    ((front_one.seq (back_between 6)).assoc.alt
    (front_zero.seq (back_choice 7))))))))
  refine ⟨_, rfl, rfl, hgaps.congr fun n m => ?_⟩
  omega

/-- The words of the pattern are the addresses. -/
theorem exists_body_ipv6 : ∃ body, Patterns.ipv6 = .whole body ∧ body.isPlain = true ∧
    ∀ w, w ∈ body.words ↔ IsIPv6 w := by
  obtain ⟨gaps, hbody, hplain, hgaps⟩ := exists_gaps_ipv6
  refine ⟨_, hbody, hplain, fun w => ?_⟩
  rw [Expr.words, mem_words_alt_iff,
    mem_words_joinedBy_iff (fun _ => mem_hexGroup_iff) fun _ => mem_colon_iff, hgaps w]
  constructor
  · rintro (⟨groups, hlength, hgroups, rfl⟩ | ⟨before, after, hlength, hgroups, rfl⟩)
    · exact .full hgroups hlength
    · exact .gap hgroups hlength
  · rintro (⟨hgroups, hlength⟩ | ⟨hgroups, hlength⟩)
    · exact .inl ⟨_, hlength, hgroups, rfl⟩
    · exact .inr ⟨_, _, hlength, hgroups, rfl⟩

variable {clause : Clause} {literal : Option LiteralPattern} {entry : Entry}

/-- The rule for addresses with groups is built, and accepts the addresses and nothing else. -/
theorem accepts_ipv6_iff (hentry : findEntry (normalize clause.name) = some entry)
    (hname : entry.name = "ipv6") (hparams : clause.params = []) :
    ∃ v, clause.resolve literal = .ok v ∧ ∀ text others,
      v.passes? (some text) others = some true ↔ IsIPv6 text.toList := by
  have hipv6 : findEntry "ipv6" = some ⟨"ipv6", [], .fixed Patterns.ipv6, "INVALID_IPV6"⟩ := rfl
  obtain rfl := eq_of_name_eq (of_findEntry hentry).1 (of_findEntry hipv6).1 hname
  have hbuild : (Pattern.build? Patterns.ipv6).isSome = true := by decide +kernel
  obtain ⟨v, hresolve⟩ := @exists_resolve_of_fixed clause literal _ _ hentry rfl hparams hbuild
  obtain ⟨body, hbody, hplain, hwords⟩ := exists_body_ipv6
  refine ⟨v, hresolve, fun text others => ?_⟩
  rw [accepts_fixed_iff hentry (congrArg Family.fixed hbody) hplain hresolve, hwords]

/-- A gap between groups in both cases. -/
theorem accepts_gapped_address : ∃ v, Clause.resolve ⟨"ipv6", [], none⟩ none = .ok v ∧
    v.passes? (some "2001:dB8::Ff00:42:8329") (fun _ => none) = some true := by
  let clause : Clause := ⟨"ipv6", [], none⟩
  have hname : normalize clause.name = "ipv6" := by decide +kernel
  have hentry : findEntry (normalize clause.name) =
      some ⟨"ipv6", [], .fixed Patterns.ipv6, "INVALID_IPV6"⟩ := by
    rw [hname]
    rfl
  obtain ⟨v, hresolve, haccepts⟩ := @accepts_ipv6_iff clause none _ hentry rfl rfl
  have haddress : IsIPv6 "2001:dB8::Ff00:42:8329".toList := by
    refine @IsIPv6.gap ["2001".toList, "dB8".toList]
      ["Ff00".toList, "42".toList, "8329".toList] ?_ (by decide)
    simp only [List.cons_append, List.nil_append, List.forall_mem_cons]
    decide
  exact ⟨v, hresolve, (haccepts _ _).2 haddress⟩

/-! ## Octets -/

/-- One to three ASCII digits for a number up to 255. -/
def IsOctet (w : List Char) : Prop :=
  ∃ n ≤ 255, IsNumeral [1, 2, 3] w n

/-- Four octets with dots between them. -/
def IsIPv4 (w : List Char) : Prop :=
  ∃ octets : List (List Char), octets.length = 4 ∧ (∀ u ∈ octets, IsOctet u) ∧
    w = joinedBy '.' octets

/-- What the pattern takes for an octet: the digits that keep it small are those of ASCII, the
others may be of any script. -/
inductive LooseOctet : List Char → Prop
  | one {c : Char} (hc : CharSet.digit.contains c = true) : LooseOctet [c]
  | two {b c : Char} (hb : CharSet.digit.contains b = true)
      (hc : CharSet.digit.contains c = true) : LooseOctet [b, c]
  | low {a b c : Char} (ha : a ∈ ['0', '1']) (hb : CharSet.digit.contains b = true)
      (hc : CharSet.digit.contains c = true) : LooseOctet [a, b, c]
  | middle {b c : Char} (hb : 48 ≤ b.toNat ∧ b.toNat ≤ 52)
      (hc : CharSet.digit.contains c = true) : LooseOctet ['2', b, c]
  | high {c : Char} (hc : 48 ≤ c.toNat ∧ c.toNat ≤ 53) : LooseOctet ['2', '5', c]

/-- One digit or two. -/
theorem mem_digits_iff : w ∈ (Expr.seq .digit (optional .digit)).words ↔
    ∃ b, CharSet.digit.contains b = true ∧
      (w = [b] ∨ ∃ c, CharSet.digit.contains c = true ∧ w = [b, c]) := by
  rw [isClass_digit.mem_words_seq_iff]
  constructor
  · rintro ⟨b, rest, hb, hrest, rfl⟩
    rcases mem_words_optional_iff.1 hrest with rfl | hrest
    · exact ⟨b, hb, .inl rfl⟩
    · obtain ⟨c, hc, rfl⟩ := (isClass_digit rest).1 hrest
      exact ⟨b, hb, .inr ⟨c, hc, rfl⟩⟩
  · rintro ⟨b, hb, rfl | ⟨c, hc, rfl⟩⟩
    · exact ⟨b, [], hb, mem_words_optional_iff.2 (.inl rfl), rfl⟩
    · exact ⟨b, [c], hb, mem_words_optional_iff.2 (.inr ((isClass_digit [c]).2 ⟨c, hc, rfl⟩)), rfl⟩

theorem digit_of_mem {a : Char} (ha : a ∈ ['0', '1']) : CharSet.digit.contains a = true := by
  rcases List.mem_pair.1 ha with rfl | rfl
  · exact digit_of_toNat (by decide) (by decide)
  · exact digit_of_toNat (by decide) (by decide)

theorem mem_octet_iff : w ∈ octet.words ↔ LooseOctet w := by
  have htwo : IsClass (.char '2') (· = '2') := isClass_char_of_lt (by decide)
  have hfive : IsClass (.char '5') (· = '5') := isClass_char_of_lt (by decide)
  have hto4 : IsClass (oneOf [.interval '0' '4']) fun c => 48 ≤ c.toNat ∧ c.toNat ≤ 52 :=
    isClass_oneOf_interval_of_lt (by decide)
  have hto5 : IsClass (oneOf [.interval '0' '5']) fun c => 48 ≤ c.toNat ∧ c.toNat ≤ 53 :=
    isClass_oneOf_interval_of_lt (by decide)
  have hlow : IsClass (oneOf [.char '0', .char '1']) (· ∈ ['0', '1']) :=
    isClass_oneOf_chars_of_lt ['0', '1'] (by simp)
  show w ∈ (Expr.alt (.seq (.seq (.char '2') (.char '5')) (oneOf [.interval '0' '5']))
    (.alt (.seq (.char '2') (.seq (oneOf [.interval '0' '4']) .digit))
      (.seq (optional (oneOf [.char '0', .char '1'])) (.seq .digit (optional .digit))))).words ↔ _
  rw [mem_words_alt_iff, mem_words_alt_iff]
  constructor
  · rintro (hw | hw | hw)
    · obtain ⟨u, hu, v, hv, rfl⟩ := mem_words_seq_iff.1 hw
      obtain ⟨_, _, rfl, rfl, rfl⟩ := (htwo.mem_words_pair_iff hfive).1 hu
      obtain ⟨c, hc, rfl⟩ := (hto5 v).1 hv
      exact .high hc
    · obtain ⟨_, v, rfl, hv, rfl⟩ := htwo.mem_words_seq_iff.1 hw
      obtain ⟨b, c, hb, hc, rfl⟩ := (hto4.mem_words_pair_iff isClass_digit).1 hv
      exact .middle hb hc
    · obtain ⟨u, hu, v, hv, rfl⟩ := mem_words_seq_iff.1 hw
      obtain ⟨b, hb, hrow⟩ := mem_digits_iff.1 hv
      rcases mem_words_optional_iff.1 hu with rfl | hu
      · rcases hrow with rfl | ⟨c, hc, rfl⟩
        · exact .one hb
        · exact .two hb hc
      · obtain ⟨a, ha, rfl⟩ := (hlow u).1 hu
        rcases hrow with rfl | ⟨c, hc, rfl⟩
        · exact .two (digit_of_mem ha) hb
        · exact .low ha hb hc
  · have hshort : ∀ {v}, v ∈ (Expr.seq .digit (optional .digit)).words →
        v ∈ (Expr.seq (optional (oneOf [.char '0', .char '1']))
          (.seq .digit (optional .digit))).words :=
      fun hv => mem_words_seq_iff.2 ⟨[], mem_words_optional_iff.2 (.inl rfl), _, hv, rfl⟩
    intro hloose
    cases hloose with
    | one hc => exact .inr (.inr (hshort (mem_digits_iff.2 ⟨_, hc, .inl rfl⟩)))
    | two hb hc => exact .inr (.inr (hshort (mem_digits_iff.2 ⟨_, hb, .inr ⟨_, hc, rfl⟩⟩)))
    | low ha hb hc =>
      refine .inr (.inr (mem_words_seq_iff.2 ⟨[_], ?_, [_, _], ?_, rfl⟩))
      · exact mem_words_optional_iff.2 (.inr ((hlow _).2 ⟨_, ha, rfl⟩))
      · exact mem_digits_iff.2 ⟨_, hb, .inr ⟨_, hc, rfl⟩⟩
    | middle hb hc =>
      refine .inr (.inl (htwo.mem_words_seq_iff.2 ⟨'2', [_, _], rfl, ?_, rfl⟩))
      exact (hto4.mem_words_pair_iff isClass_digit).2 ⟨_, _, hb, hc, rfl⟩
    | high hc =>
      refine .inl (mem_words_seq_iff.2 ⟨['2', '5'], ?_, [_], (hto5 _).2 ⟨_, hc, rfl⟩, rfl⟩)
      exact (htwo.mem_words_pair_iff hfive).2 ⟨'2', '5', rfl, rfl, rfl⟩

/-- A numeral of three digits, with the values of its digits. -/
theorem isNumeral_three_iff {a b c : Char} {n : Nat} : IsNumeral [1, 2, 3] [a, b, c] n ↔
    (∀ d ∈ [a, b, c], d.isDigit = true) ∧
      100 * (a.toNat - 48) + 10 * (b.toNat - 48) + (c.toNat - 48) = n := by
  have hvalue : digitsValue [a, b, c] =
      100 * (a.toNat - 48) + 10 * (b.toNat - 48) + (c.toNat - 48) := by
    simp [digitsValue]
    omega
  constructor
  · rintro ⟨-, hdigits, rfl⟩
    exact ⟨hdigits, hvalue.symm⟩
  · rintro ⟨hdigits, rfl⟩
    exact ⟨by simp, hdigits, hvalue⟩

theorem IsOctet.loose (hoctet : IsOctet w) : LooseOctet w := by
  obtain ⟨n, hle, hnumeral⟩ := hoctet
  have hdigit : ∀ c ∈ w, CharSet.digit.contains c = true := hnumeral.isRow.digit
  have hlength := hnumeral.length_mem
  simp only [List.mem_cons, List.not_mem_nil, or_false] at hlength
  rcases hlength with hone | htwo | hthree
  · obtain ⟨c, rfl⟩ := List.length_eq_one_iff.1 hone
    exact .one (hdigit c (by simp))
  · obtain ⟨b, c, rfl⟩ := List.length_eq_two.1 htwo
    exact .two (hdigit b (by simp)) (hdigit c (by simp))
  · obtain ⟨a, b, c, rfl⟩ := List.length_eq_three.1 hthree
    obtain ⟨hdigits, rfl⟩ := isNumeral_three_iff.1 hnumeral
    have ha := isDigit_iff.1 (hdigits a (by simp))
    have hb := isDigit_iff.1 (hdigits b (by simp))
    have hc := isDigit_iff.1 (hdigits c (by simp))
    -- the first digit decides, and then the second
    by_cases hlow : a.toNat ≤ 49
    · refine .low ?_ (hdigit b (by simp)) (hdigit c (by simp))
      obtain h | h : a.toNat = '0'.toNat ∨ a.toNat = '1'.toNat := by
        show a.toNat = 48 ∨ a.toNat = 49
        omega
      · rw [Char.toNat_inj.1 h]
        exact List.mem_cons_self
      · rw [Char.toNat_inj.1 h]
        exact List.mem_cons_of_mem _ List.mem_cons_self
    · have htwo : a.toNat = '2'.toNat := by
        show a.toNat = 50
        omega
      obtain rfl := Char.toNat_inj.1 htwo
      by_cases hmiddle : b.toNat ≤ 52
      · exact .middle ⟨hb.1, hmiddle⟩ (hdigit c (by simp))
      · have hfive : b.toNat = '5'.toNat := by
          show b.toNat = 53
          omega
        obtain rfl := Char.toNat_inj.1 hfive
        exact .high ⟨hc.1, by omega⟩

/-- Of ASCII digits, the pattern takes the numbers up to 255 and no others. -/
theorem isOctet_iff : IsOctet w ↔ LooseOctet w ∧ ∀ c ∈ w, c.isDigit = true := by
  constructor
  · intro hoctet
    refine ⟨hoctet.loose, ?_⟩
    obtain ⟨n, -, hnumeral⟩ := hoctet
    exact hnumeral.isDigit
  · rintro ⟨hloose, hdigits⟩
    have hthree : ∀ {a b c : Char}, (∀ d ∈ [a, b, c], d.isDigit = true) →
        100 * (a.toNat - 48) + 10 * (b.toNat - 48) + (c.toNat - 48) ≤ 255 → IsOctet [a, b, c] :=
      fun hdigits hle => ⟨_, hle, isNumeral_three_iff.2 ⟨hdigits, rfl⟩⟩
    cases hloose with
    | one hc =>
      have hlt := digitsValue_lt hdigits
      exact ⟨_, by simp at hlt; omega, by simp, hdigits, rfl⟩
    | two hb hc =>
      have hlt := digitsValue_lt hdigits
      exact ⟨_, by simp at hlt; omega, by simp, hdigits, rfl⟩
    | @low a b c ha hb hc =>
      have hb := isDigit_iff.1 (hdigits b (by simp))
      have hc := isDigit_iff.1 (hdigits c (by simp))
      refine hthree hdigits ?_
      have hle : a.toNat ≤ 49 := by
        rcases List.mem_pair.1 ha with rfl | rfl
        · decide
        · decide
      omega
    | @middle b c hb hc =>
      have hc := isDigit_iff.1 (hdigits c (by simp))
      refine hthree hdigits ?_
      show 100 * (50 - 48) + 10 * (b.toNat - 48) + (c.toNat - 48) ≤ 255
      omega
    | @high c hc =>
      refine hthree hdigits ?_
      show 100 * (50 - 48) + 10 * (53 - 48) + (c.toNat - 48) ≤ 255
      omega

/-! ## Addresses of octets -/

theorem exists_body_ipv4 : ∃ body, Patterns.ipv4 = .whole body ∧ body.isPlain = true ∧
    ∀ w, w ∈ body.words ↔ ∃ octets : List (List Char), octets.length = 4 ∧
      (∀ u ∈ octets, LooseOctet u) ∧ w = joinedBy '.' octets := by
  have hdot : ∀ w, w ∈ (Patterns.word ".").words ↔ w = ['.'] := by
    intro w
    have hclass : IsClass (Patterns.word ".") (· = '.') := isClass_char_of_lt (by decide)
    exact (hclass w).trans (by simp)
  exact ⟨_, rfl, rfl, fun w => mem_words_joinedBy_iff (fun _ => mem_octet_iff) hdot⟩

theorem LooseOctet.digit (hloose : LooseOctet w) : ∀ c ∈ w, CharSet.digit.contains c = true := by
  cases hloose with
  | one hc => simpa using hc
  | two hb hc => simpa using ⟨hb, hc⟩
  | low ha hb hc => simpa using ⟨digit_of_mem ha, hb, hc⟩
  | middle hb hc =>
    have htwo : CharSet.digit.contains '2' = true := digit_of_toNat (by decide) (by decide)
    simpa using ⟨htwo, digit_of_toNat hb.1 (by omega), hc⟩
  | high hc =>
    have htwo : CharSet.digit.contains '2' = true := digit_of_toNat (by decide) (by decide)
    have hfive : CharSet.digit.contains '5' = true := digit_of_toNat (by decide) (by decide)
    simpa using ⟨htwo, hfive, digit_of_toNat hc.1 (by omega)⟩

theorem IsIPv4.isDigit (haddress : IsIPv4 w) : ∀ c ∈ w, c = '.' ∨ c.isDigit = true := by
  obtain ⟨octets, -, hoctets, rfl⟩ := haddress
  intro c hc
  rcases eq_or_mem_of_mem_joinedBy hc with heq | ⟨u, hu, hmem⟩
  · exact .inl heq
  · exact .inr ((isOctet_iff.1 (hoctets u hu)).2 c hmem)

/-- The addresses are the texts of dots and ASCII digits among those that the pattern takes. -/
theorem isIPv4_iff : IsIPv4 w ↔
    (∃ octets : List (List Char), octets.length = 4 ∧ (∀ u ∈ octets, LooseOctet u) ∧
      w = joinedBy '.' octets) ∧ ∀ c ∈ w, c = '.' ∨ c.isDigit = true := by
  constructor
  · intro haddress
    refine ⟨?_, haddress.isDigit⟩
    obtain ⟨octets, hlength, hoctets, rfl⟩ := haddress
    exact ⟨octets, hlength, fun u hu => (hoctets u hu).loose, rfl⟩
  · rintro ⟨⟨octets, hlength, hloose, rfl⟩, hchars⟩
    refine ⟨octets, hlength, fun u hu => isOctet_iff.2 ⟨hloose u hu, fun c hc => ?_⟩, rfl⟩
    rcases hchars c (subset_joinedBy hu '.' hc) with rfl | hdigit
    · -- a dot is no digit of any script
      have hdot : CharSet.digit.contains '.' = false := by decide +kernel
      rw [(hloose u hu).digit '.' hc] at hdot
      cases hdot
    · exact hdigit

/-- The rule for addresses with octets is built.  It accepts four octets in the loose sense, and
so every address, and of the texts of dots and ASCII digits nothing else. -/
theorem accepts_ipv4_iff (hentry : findEntry (normalize clause.name) = some entry)
    (hname : entry.name = "ipv4") (hparams : clause.params = []) :
    ∃ v, clause.resolve literal = .ok v ∧ ∀ text others,
      (v.passes? (some text) others = some true ↔ ∃ octets : List (List Char),
        octets.length = 4 ∧ (∀ u ∈ octets, LooseOctet u) ∧ text.toList = joinedBy '.' octets) ∧
      (IsIPv4 text.toList ↔ v.passes? (some text) others = some true ∧
        ∀ c ∈ text.toList, c = '.' ∨ c.isDigit = true) := by
  have hipv4 : findEntry "ipv4" =
      some ⟨"ipv4", ["ip"], .fixed Patterns.ipv4, "INVALID_IPV4"⟩ := rfl
  obtain rfl := eq_of_name_eq (of_findEntry hentry).1 (of_findEntry hipv4).1 hname
  have hbuild : (Pattern.build? Patterns.ipv4).isSome = true := by decide +kernel
  obtain ⟨v, hresolve⟩ := @exists_resolve_of_fixed clause literal _ _ hentry rfl hparams hbuild
  obtain ⟨body, hbody, hplain, hwords⟩ := exists_body_ipv4
  refine ⟨v, hresolve, fun text others => ?_⟩
  rw [accepts_fixed_iff hentry (congrArg Family.fixed hbody) hplain hresolve, hwords]
  exact ⟨Iff.rfl, isIPv4_iff⟩

/-- An address with the least octet, the greatest one, and one that is filled up with zeros. -/
theorem accepts_filled_address : ∃ v, Clause.resolve ⟨"ip", [], none⟩ none = .ok v ∧
    v.passes? (some "0.255.007.25") (fun _ => none) = some true := by
  let clause : Clause := ⟨"ip", [], none⟩
  have hname : normalize clause.name = "ip" := by decide +kernel
  have hentry : findEntry (normalize clause.name) =
      some ⟨"ipv4", ["ip"], .fixed Patterns.ipv4, "INVALID_IPV4"⟩ := by
    rw [hname]
    rfl
  obtain ⟨v, hresolve, haccepts⟩ := @accepts_ipv4_iff clause none _ hentry rfl rfl
  have haddress : IsIPv4 "0.255.007.25".toList := by
    refine ⟨["0".toList, "255".toList, "007".toList, "25".toList], rfl, ?_, by decide⟩
    simp only [List.forall_mem_cons]
    exact ⟨⟨0, by decide, by decide⟩, ⟨255, by decide, by decide⟩, ⟨7, by decide, by decide⟩,
      ⟨25, by decide, by decide⟩, nofun⟩
  exact ⟨v, hresolve, ((haccepts _ _).2.1 haddress).1⟩

/-- Digits of another script pass for octets, which those of an address are not. -/
theorem not_forall_accepts_ipv4 :
    ¬ ∀ {clause : Clause} {literal : Option LiteralPattern} {entry : Entry} {v : Validator},
      findEntry (normalize clause.name) = some entry → entry.name = "ipv4" →
      clause.resolve literal = .ok v →
      ∀ text others, v.passes? (some text) others = some true ↔ IsIPv4 text.toList := by
  intro hall
  let clause : Clause := ⟨"ipv4", [], none⟩
  have hname : normalize clause.name = "ipv4" := by decide +kernel
  have hentry : findEntry (normalize clause.name) =
      some ⟨"ipv4", ["ip"], .fixed Patterns.ipv4, "INVALID_IPV4"⟩ := by
    rw [hname]
    rfl
  have haccepted : ((clause.resolve none).toOption).any (fun v =>
      v.passes? (some "٩.٩.٩.٩") (fun _ => none) == some true) = true := by
    decide +kernel
  obtain ⟨v, hv, haccepted⟩ := (Option.any_eq_true _ _).1 haccepted
  have haddress := (hall hentry rfl (eq_ok_of_toOption hv) "٩.٩.٩.٩" fun _ => none).1
    (beq_iff_eq.1 haccepted)
  have hforeign : '٩' ≠ '.' ∧ '٩'.isDigit = false := by decide +kernel
  rcases haddress.isDigit '٩' (by decide) with heq | hdigit
  · exact hforeign.1 heq
  · rw [hforeign.2] at hdigit
    cases hdigit

end FieldRules.Rule
