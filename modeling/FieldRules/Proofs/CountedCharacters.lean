import FieldRules.Proofs.BuiltClauses
import FieldRules.Proofs.DetectedBounds
import FieldRules.Proofs.PatternLanguages

/-!
# Rules that count characters

The bounds of rules on lengths and on digits go into the quantifier of a pattern for the
whole text.  What such a pattern accepts is a matter of the number of characters alone,
and for the second kind of rule of each of them being a decimal digit.

* `occursIn_length_iff`, `occursIn_digits_iff`: the texts in which the patterns occur.
* `passes_lengthTest_iff`, `passes_digitsTest_iff`: the texts that the tests accept.
* `Rule.accepts_iff_counted`: what the rules accept.
-/

namespace FieldRules

open Pattern

/-! ## Patterns with a count -/

namespace Pattern

variable {lo n : Nat} {hi : Option Nat} {p : Pattern} {e : Expr} {r : Re}
  {options options' : Options}

theorem CharSet.contains_all (c : Char) : CharSet.all.contains c = true := by
  have hvalid : c.toNat.isValidChar := c.valid
  have hle : c.toNat ≤ 0x10FFFF := by
    unfold Nat.isValidChar at hvalid
    omega
  simp [all, contains, Unicode.Ranges.contains, hle]

theorem bounds_countQuantifier (lo : Nat) (hi : Option Nat) :
    (Rule.Patterns.countQuantifier lo hi).bounds = (lo, hi) := by
  cases hi with
  | none => rfl
  | some most =>
    rw [Rule.Patterns.countQuantifier]
    split
    · next heq =>
      rw [heq]
      rfl
    · rfl

theorem Expr.lower_rep (quantifier : Quantifier) (reluctant : Bool)
    (hlower : e.lower options = some (r, options')) :
    (Expr.rep e quantifier reluctant).lower options =
      some (.rep quantifier.bounds.1 quantifier.bounds.2 r, options') := by
  simp only [lower, hlower]
  rfl

/-- The pattern for a length occurs in the texts of this length, whatever their characters
are. -/
theorem occursIn_length_iff (hbuild : Pattern.build? (Rule.Patterns.length lo hi) = some p)
    (text : String) : p.occursIn text = true ↔ Within lo hi text.toList.length := by
  have hdot : Expr.dot.lower { dotAll := true } = some (.set .all, { dotAll := true }) := rfl
  have hlower : (Rule.Patterns.length lo hi).lower {} =
      some (.seq .empty (.seq (.look .textStart) (.seq (.rep lo hi (.set .all))
        (.look .textEnd))), { dotAll := true }) := by
    have hrep := Expr.lower_rep (Rule.Patterns.countQuantifier lo hi) false hdot
    rw [bounds_countQuantifier] at hrep
    exact Expr.lower_seq rfl (Expr.lower_seq rfl (Expr.lower_seq hrep rfl))
  obtain ⟨after, hcore⟩ := Expr.exists_lower_of_build? hbuild
  rw [hlower, Option.some.injEq, Prod.mk.injEq] at hcore
  have hany : ∀ w, w ∈ CharSet.all.words ↔ ∃ c : Char, True ∧ w = [c] := by
    intro w
    rw [CharSet.mem_words_iff]
    simp only [CharSet.contains_all]
  rw [Pattern.occursIn, ← hcore.1, Re.occursIn_iff, Expr.occurs_empty_seq_iff,
    Expr.occurs_between_ends_iff ((accepts_set .all).rep lo hi), mem_repeated_iff hany]
  simp

/-- The pattern for a number of digits occurs in the texts of so many decimal digits. -/
theorem occursIn_digits_iff (hbuild : Pattern.build? (Rule.Patterns.digits lo n) = some p)
    (text : String) : p.occursIn text = true ↔
      Within lo (some n) text.toList.length ∧
        ∀ c ∈ text.toList, CharSet.digit.contains c = true := by
  rw [Expr.occursIn_iff_mem_words rfl hbuild, Expr.words, bounds_countQuantifier,
    mem_repeated_iff Expr.isClass_digit]

end Pattern

/-! ## The rules -/

namespace Rule

variable {rule : String} {bound : Bound} {params : List String} {test : Test} {entry : Entry}
  {clause : Clause} {literal : Option LiteralPattern} {v : Validator} {text : String}

theorem passes_lengthTest_iff (hparams : params.length = bound.places)
    (h : lengthTest rule bound params = .ok test) (text : String) :
    test.passes (some text) = true ↔ bound.Allows params text.toList.length := by
  obtain ⟨bounds, hbounds, h⟩ := bind_eq_ok h
  obtain ⟨p, hbuild, hpasses⟩ := exists_build?_of_patternTest h
  rw [hpasses, occursIn_length_iff hbuild, within_iff_allows hparams hbounds]

/-- The bounds of a rule on digits are those of a rule on lengths. -/
theorem digitsTest_eq (hparams : params.length = bound.places)
    (hbound : bound = .exact ∨ bound = .between) (h : digitsTest rule params = .ok test) :
    ∃ lo hi, lengthBounds rule bound params = .ok (lo, some hi) ∧
      patternTest rule (Patterns.digits lo hi) = .ok test := by
  rcases hbound with rfl | rfl
  · obtain ⟨raw, rfl⟩ := List.length_eq_one_iff.1 hparams
    obtain ⟨n, hn, h⟩ := bind_eq_ok h
    refine ⟨n, n, ?_, h⟩
    rw [lengthBounds, hn]
    rfl
  · obtain ⟨lo, hi, rfl⟩ := List.length_eq_two.1 hparams
    obtain ⟨⟨least, greatest⟩, hrange, h⟩ := bind_eq_ok h
    refine ⟨least, greatest, ?_, h⟩
    rw [lengthBounds, hrange]
    rfl

theorem passes_digitsTest_iff (hparams : params.length = bound.places)
    (hbound : bound = .exact ∨ bound = .between) (h : digitsTest rule params = .ok test)
    (text : String) : test.passes (some text) = true ↔
      bound.Allows params text.toList.length ∧
        ∀ c ∈ text.toList, CharSet.digit.contains c = true := by
  obtain ⟨lo, hi, hbounds, htest⟩ := digitsTest_eq hparams hbound h
  obtain ⟨p, hbuild, hpasses⟩ := exists_build?_of_patternTest htest
  rw [hpasses, occursIn_digits_iff hbuild, within_iff_allows hparams hbounds]

/-- No two rules have the same name. -/
theorem eq_of_name_eq {entry other : Entry} (hmem : entry ∈ entries) (hother : other ∈ entries)
    (hname : entry.name = other.name) : entry = other := by
  have hnodup : (entries.map Entry.name).Nodup := by decide +kernel
  exact List.inj_on_of_nodup_map hnodup hmem hother hname

/-- Rules on lengths and on digits count characters.  In any spelling of its keyword, a rule
on lengths accepts the texts whose number of characters its bounds allow, and so does the
shape for lengths of `size`, `min`, `max` and `between`, which they have just if their bounds
are counts.  A rule on digits asks the same, and that each character is a decimal digit. -/
theorem accepts_iff_counted (hentry : findEntry (normalize clause.name) = some entry)
    (hresolve : clause.resolve literal = .ok v) (bound : Bound) (text : String)
    (others : String → Option String) :
    (entry.name = bound.lengthKeyword →
      (v.passes? (some text) others = some true ↔
        bound.Allows clause.params text.toList.length)) ∧
    (entry.name = bound.keyword →
      ∃ length number, v.check = .auto length number ∧
        (length.isSome = true ↔ ∀ raw ∈ clause.params, (count? raw).isSome = true) ∧
        ∀ shape ∈ length, (shape.test.passes (some text) = true ↔
          bound.Allows clause.params text.toList.length)) ∧
    (entry.name = "digits" →
      (v.passes? (some text) others = some true ↔
        Bound.exact.Allows clause.params text.toList.length ∧
          ∀ c ∈ text.toList, CharSet.digit.contains c = true)) ∧
    (entry.name = "digits_between" →
      (v.passes? (some text) others = some true ↔
        Bound.between.Allows clause.params text.toList.length ∧
          ∀ c ∈ text.toList, CharSet.digit.contains c = true)) := by
  obtain ⟨hmem, -⟩ := of_findEntry hentry
  have hnamed : ∀ {keyword : String} {other : Entry}, findEntry keyword = some other →
      entry.name = other.name → entry = other :=
    fun hother hname => eq_of_name_eq hmem (of_findEntry hother).1 hname
  refine ⟨fun hname => ?_, fun hname => ?_, fun hname => ?_, fun hname => ?_⟩
  · obtain rfl := hnamed (findEntry_lengthKeyword bound) hname
    obtain ⟨hcheck, hadmits⟩ := of_resolve_ok hentry rfl hresolve
    obtain ⟨test, hlength, htest⟩ := map_eq_ok hcheck
    rw [passes?_of_test htest.symm, Option.some.injEq,
      passes_lengthTest_iff (admits_arity_iff.1 hadmits) hlength]
  · obtain ⟨aliases, hkeyword⟩ := findEntry_keyword bound
    obtain rfl := hnamed hkeyword hname
    obtain ⟨hcheck, hadmits⟩ := of_resolve_ok hentry rfl hresolve
    obtain ⟨length, number, hauto, -, hcounts, hlength⟩ := autoCheck_eq_ok hcheck
    refine ⟨length, _, hauto, hcounts, fun shape hshape => ?_⟩
    exact passes_lengthTest_iff (admits_arity_iff.1 hadmits) (hlength shape hshape).2 text
  · have hdigits : findEntry "digits" =
        some ⟨"digits", [], .digits, "INVALID_DIGITS"⟩ := rfl
    obtain rfl := hnamed hdigits hname
    obtain ⟨hcheck, hadmits⟩ := of_resolve_ok hentry rfl hresolve
    obtain ⟨test, hdigits, htest⟩ := map_eq_ok hcheck
    have hplaces : clause.params.length = Bound.exact.places := admits_arity_iff.1 hadmits
    rw [passes?_of_test htest.symm, Option.some.injEq,
      passes_digitsTest_iff hplaces (.inl rfl) hdigits]
  · have hbetween : findEntry "digits_between" =
        some ⟨"digits_between", [], .digitsBetween, "INVALID_DIGITS_BETWEEN"⟩ := rfl
    obtain rfl := hnamed hbetween hname
    obtain ⟨hcheck, hadmits⟩ := of_resolve_ok hentry rfl hresolve
    obtain ⟨test, hdigits, htest⟩ := map_eq_ok hcheck
    have hplaces : clause.params.length = Bound.between.places := admits_arity_iff.1 hadmits
    rw [passes?_of_test htest.symm, Option.some.injEq,
      passes_digitsTest_iff hplaces (.inr rfl) hdigits]

/-- A letter with an accent and a line break count once each, and the bounds may have a sign
and blanks around them.  Digits of other scripts than the Latin one are digits. -/
theorem accepts_two_lines :
    (∃ v, Clause.resolve ⟨"betweenLen", [" +2", "5 "], none⟩ none = .ok v ∧
      v.passes? (some "hé\né") (fun _ => none) = some true) ∧
    ∃ v, Clause.resolve ⟨"digitsBetween", ["2", "3"], none⟩ none = .ok v ∧
      v.passes? (some "٣४5") (fun _ => none) = some true := by
  constructor
  · let clause : Clause := ⟨"betweenLen", [" +2", "5 "], none⟩
    have hsome : ((clause.resolve none).toOption).isSome = true := by decide +kernel
    obtain ⟨v, hresolve⟩ := exists_eq_ok_of_isSome hsome
    have hname : normalize clause.name = Bound.between.lengthKeyword := by decide +kernel
    have hentry : findEntry (normalize clause.name) =
        some ⟨"between_len", [], .length .between, "INVALID_BETWEEN_CHAR"⟩ := by
      rw [hname]
      rfl
    have hcounts : Bound.between.Allows clause.params "hé\né".toList.length :=
      ⟨2, 5, by decide +kernel, by decide +kernel, by decide, by decide⟩
    exact ⟨v, hresolve,
      ((accepts_iff_counted hentry hresolve .between "hé\né" fun _ => none).1 rfl).2 hcounts⟩
  · let clause : Clause := ⟨"digitsBetween", ["2", "3"], none⟩
    have hsome : ((clause.resolve none).toOption).isSome = true := by decide +kernel
    obtain ⟨v, hresolve⟩ := exists_eq_ok_of_isSome hsome
    have hname : normalize clause.name = "digits_between" := by decide +kernel
    have hentry : findEntry (normalize clause.name) =
        some ⟨"digits_between", [], .digitsBetween, "INVALID_DIGITS_BETWEEN"⟩ := by
      rw [hname]
      rfl
    have hcounts : Bound.between.Allows clause.params "٣४5".toList.length :=
      ⟨2, 3, by decide +kernel, by decide +kernel, by decide, by decide⟩
    have hdigits : ("٣४5".toList.all fun c => CharSet.digit.contains c) = true := by decide +kernel
    exact ⟨v, hresolve, ((accepts_iff_counted hentry hresolve .between "٣४5"
      fun _ => none).2.2.2 rfl).2 ⟨hcounts, List.all_eq_true.1 hdigits⟩⟩

end Rule

end FieldRules
