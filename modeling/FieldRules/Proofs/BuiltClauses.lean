import FieldRules.Evaluation
import FieldRules.Proofs.CountBounds
import FieldRules.Proofs.PatternLanguages

/-!
# What clauses are built into

Rules of most families decide by a test that they make of their parameters, and a rule with
two shapes by two tests.

* `resolve_eq_of_findEntry`: a clause becomes what its rule is built into.
* `Entry.check?`: the check that a rule makes of its parameters.
* `build_of_check?`, `of_resolve_ok`: such a rule is built if its check is made, and has it.
* `exists_resolve_of_fixed`, `accepts_fixed_iff`: rules with fixed patterns.
* `autoCheck_eq_ok`: the check of a rule with two shapes.
-/

namespace FieldRules.Rule

open Pattern

variable {rule : String} {bound : Bound} {arity : Arity} {params : List String} {clause : Clause}
  {literal : Option LiteralPattern} {entry : Entry} {v : Validator} {n : Nat}
  {result : Except ConfigError Check}

/-! ## Clauses -/

/-- A clause of a rule of the table becomes what the rule is built into, with its message
text. -/
theorem resolve_eq_of_findEntry (hentry : findEntry (normalize clause.name) = some entry) :
    clause.resolve literal = (entry.build clause literal).map fun v =>
      { v with alt := v.alt.or clause.alt } := by
  unfold Clause.resolve
  dsimp only
  rw [hentry]
  dsimp only
  cases entry.build clause literal <;> rfl

theorem expectParams_eq_ok (hadmits : arity.admits params.length = true) :
    expectParams rule params arity = .ok params := by
  unfold expectParams
  rw [if_pos hadmits]

/-! ## Rules that decide by tests -/

/-- How many parameters a rule expects, and the check that it makes of them, if it decides by
tests of its parameters. -/
def Entry.check? (entry : Entry) (params : List String) :
    Option (Arity × Except ConfigError Check) :=
  match entry.family with
  | .fixed e => some (.zero, (patternTest entry.name e).map .test)
  | .length bound => some (bound.arity, (lengthTest entry.name bound params).map .test)
  | .number bound => some (bound.arity, (numberTest entry.name bound params).map .test)
  | .auto bound => some (bound.arity, autoCheck entry bound params)
  | .digits => some (.one, (digitsTest entry.name params).map .test)
  | .digitsBetween => some (.two, (digitsTest entry.name params).map .test)
  | _ => none

theorem map_bind_eq {ε α β γ : Type} (x : Except ε α) (f : α → β) (g : β → Except ε γ) :
    (x.map f >>= g) = x >>= fun a => g (f a) := by
  cases x <;> rfl

theorem build_eq_of_check? (literal : Option LiteralPattern)
    (hcheck : entry.check? clause.params = some (arity, result)) :
    ∃ shown : List String, entry.build clause literal = do
      let _ ← expectParams entry.name clause.params arity
      let check ← result
      return ⟨entry.name, entry.key, shown, none, check⟩ := by
  unfold Entry.check? at hcheck
  unfold Entry.build
  dsimp only
  unfold expectParams
  cases hfamily : entry.family with
  | fixed e =>
    rw [hfamily] at hcheck
    cases hcheck
    refine ⟨[], ?_⟩
    simp only [map_bind_eq]
  | length bound | number bound | digits | digitsBetween =>
    rw [hfamily] at hcheck
    cases hcheck
    refine ⟨clause.params, ?_⟩
    simp only [map_bind_eq]
    split <;> rfl
  | auto bound =>
    rw [hfamily] at hcheck
    cases hcheck
    refine ⟨clause.params, ?_⟩
    dsimp only
    split <;> rfl
  | _ =>
    rw [hfamily] at hcheck
    cases hcheck

/-- A rule with the right number of parameters is built if its check is made. -/
theorem build_of_check? (literal : Option LiteralPattern)
    (hcheck : entry.check? clause.params = some (arity, result))
    (hadmits : arity.admits clause.params.length = true) :
    ∃ shown : List String, entry.build clause literal = result.map fun check =>
      ⟨entry.name, entry.key, shown, none, check⟩ := by
  obtain ⟨shown, hbuild⟩ := build_eq_of_check? literal hcheck
  refine ⟨shown, ?_⟩
  rw [hbuild, expectParams_eq_ok hadmits]
  cases result <;> rfl

/-- A clause of such a rule has the check of its rule. -/
theorem of_resolve_ok (hentry : findEntry (normalize clause.name) = some entry)
    (hcheck : entry.check? clause.params = some (arity, result))
    (h : clause.resolve literal = .ok v) :
    result = .ok v.check ∧ arity.admits clause.params.length = true := by
  obtain ⟨shown, hbuild⟩ := build_eq_of_check? literal hcheck
  rw [resolve_eq_of_findEntry hentry, hbuild] at h
  obtain ⟨built, hbuilt, rfl⟩ := map_eq_ok h
  obtain ⟨params, hparams, hbuilt⟩ := bind_eq_ok hbuilt
  obtain ⟨check, hresult, hbuilt⟩ := bind_eq_ok hbuilt
  cases hbuilt
  obtain ⟨rfl, hadmits⟩ := of_expectParams hparams
  exact ⟨hresult, hadmits⟩

theorem passes?_of_test {test : Test} (hcheck : v.check = .test test) (value : Option String)
    (others : String → Option String) : v.passes? value others = some (test.passes value) := by
  unfold Validator.passes?
  rw [hcheck]

theorem buildPattern_eq_ok_iff {e : Expr} {p : Pattern} :
    buildPattern rule e = .ok p ↔ Pattern.build? e = some p := by
  unfold buildPattern
  cases Pattern.build? e <;> simp

/-- A test for a pattern asks whether the compiled pattern occurs. -/
theorem exists_build?_of_patternTest {e : Expr} {test : Test} (h : patternTest rule e = .ok test) :
    ∃ p : Pattern, Pattern.build? e = some p ∧
      ∀ text, test.passes (some text) = p.occursIn text := by
  obtain ⟨p, hp, rfl⟩ := map_eq_ok h
  refine ⟨p, buildPattern_eq_ok_iff.1 hp, fun text => ?_⟩
  simp [Test.passes]

/-! ## Rules with fixed patterns -/

theorem check?_of_fixed {e : Expr} (hfamily : entry.family = .fixed e) (params : List String) :
    entry.check? params = some (.zero, (patternTest entry.name e).map .test) := by
  unfold Entry.check?
  rw [hfamily]

/-- A rule with a fixed pattern is built if there are no parameters and its pattern compiles. -/
theorem exists_resolve_of_fixed {e : Expr}
    (hentry : findEntry (normalize clause.name) = some entry) (hfamily : entry.family = .fixed e)
    (hparams : clause.params = []) (hbuild : (Pattern.build? e).isSome = true) :
    ∃ v, clause.resolve literal = .ok v := by
  have hadmits : Arity.zero.admits clause.params.length = true := by
    rw [hparams]
    rfl
  obtain ⟨p, hp⟩ := Option.isSome_iff_exists.1 hbuild
  obtain ⟨shown, hmade⟩ :=
    build_of_check? literal (check?_of_fixed hfamily clause.params) hadmits
  rw [resolve_eq_of_findEntry hentry, hmade, patternTest, buildPattern_eq_ok_iff.2 hp]
  exact ⟨_, rfl⟩

/-- A rule with a fixed pattern for the whole text accepts the texts in its language. -/
theorem accepts_fixed_iff {e : Expr} {text : String} {others : String → Option String}
    (hentry : findEntry (normalize clause.name) = some entry)
    (hfamily : entry.family = .fixed (.whole e)) (hplain : e.isPlain = true)
    (hresolve : clause.resolve literal = .ok v) :
    v.passes? (some text) others = some true ↔ text.toList ∈ e.words := by
  obtain ⟨hmade, -⟩ := of_resolve_ok hentry (check?_of_fixed hfamily clause.params) hresolve
  obtain ⟨test, hpattern, htest⟩ := map_eq_ok hmade
  obtain ⟨p, hbuild, hpasses⟩ := exists_build?_of_patternTest hpattern
  rw [passes?_of_test htest.symm, Option.some.injEq, hpasses,
    Expr.occursIn_iff_mem_words hplain hbuild]

/-! ## Rules with two shapes -/

/-- The number is compared always, and the length if the bounds are counts. -/
theorem autoCheck_eq_ok {check : Check} (h : autoCheck entry bound params = .ok check) :
    ∃ length number, check = .auto length ⟨bound.numericKey, number⟩ ∧
      numberTest entry.name bound params = .ok number ∧
      (length.isSome = true ↔ ∀ raw ∈ params, (count? raw).isSome = true) ∧
      ∀ shape ∈ length, shape.key = entry.key ∧
        lengthTest entry.name bound params = .ok shape.test := by
  obtain ⟨number, hnumber, h⟩ := bind_eq_ok h
  dsimp only at h
  split at h
  · next hcounts =>
    obtain ⟨length, hlength, h⟩ := bind_eq_ok h
    cases h
    obtain ⟨test, htest, rfl⟩ := map_eq_ok hlength
    refine ⟨_, number, rfl, hnumber, iff_of_true rfl (allCounts_eq_true_iff.1 hcounts), ?_⟩
    rintro shape ⟨⟩
    exact ⟨rfl, htest⟩
  · next hcounts =>
    cases h
    refine ⟨none, number, rfl, hnumber, iff_of_false Bool.false_ne_true ?_, nofun⟩
    rwa [← allCounts_eq_true_iff]

end FieldRules.Rule
