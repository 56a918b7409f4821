import FieldRules.Proofs.ParameterCounts
import FieldRules.Proofs.RenamedClauses
import FieldRules.Proofs.Spellings

/-!
# What is known of a chain before its rules are looked up

That a chain makes its field required, and that its ranges have two bounds, is found out from
the keywords as they are written.  Its validators come from the rules that the normalized
keywords name.  Both agree.

* `normalize_eq_iff_of_not_mem`: a keyword without a low line has one spelling only.
* `family_eq_required_iff`: the reserved keyword is the only one of its rule.
* `isRequired_of_build`, `isRequired_of_buildDate`: no other rule makes a field required.
* `any_isRequired_of_mapM`: a chain has a required validator if it has the reserved keyword.
* `parse_agrees_resolve`: what is found out from the keywords is what their rules say.
-/

namespace FieldRules

/-- A missing value does not pass the test, whatever its pattern is. -/
def Test.isRequired : Test → Bool
  | pattern _ _ required => required
  | _ => false

/-- A missing value does not pass the check, whatever its pattern is. -/
def Check.isRequired : Check → Bool
  | test asked => asked.isRequired
  | _ => false

theorem Validator.isRequired_eq (v : Validator) : v.isRequired = v.check.isRequired := by
  unfold isRequired
  rcases v.check with (_ | _ | _) | _ | _ | _ <;> rfl

namespace Rule

variable {last : Char} {text : List Char} {keyword word rule name : String} {bound : Bound}
  {params : List String} {test : Test} {entry : Entry} {clause : Clause} {chain : Chain}
  {literal : Option LiteralPattern} {v : Validator} {validators : List Validator}

/-! ## Keywords with one spelling -/

/-- A capital leaves a low line before it, unless one stands there already. -/
theorem snakeTail_eq_self (hlast : last ≠ '_') (hline : '_' ∉ snakeTail last text) :
    snakeTail last text = text := by
  induction text generalizing last with
  | nil => rfl
  | cons c rest ih =>
    rw [snakeTail] at hline ⊢
    by_cases hcapital : isCapital c = true
    · rw [if_pos hcapital, if_neg hlast] at hline
      exact absurd List.mem_cons_self hline
    · rw [if_neg hcapital, List.mem_cons, not_or] at hline
      rw [if_neg hcapital, ih (Ne.symm hline.1) hline.2]

theorem snakeCase_eq_self (hline : '_' ∉ snakeCase text) : snakeCase text = text := by
  cases text with
  | nil => rfl
  | cons c rest =>
    rw [snakeCase, List.mem_cons, not_or] at hline
    rw [snakeCase, snakeTail_eq_self (Ne.symm hline.1) hline.2]

/-- A normalized keyword without a low line has no other spelling. -/
theorem normalize_eq_iff_of_not_mem (hnormal : normalize word = word) (hline : '_' ∉ word.toList) :
    normalize keyword = word ↔ keyword = word := by
  constructor
  · rintro rfl
    rw [normalize, String.toList_ofList] at hline
    rw [normalize, snakeCase_eq_self hline, String.ofList_toList]
  · rintro rfl
    exact hnormal

/-- The rule that makes a field required has the reserved keyword, and no other one. -/
theorem family_eq_required_iff (hentry : findEntry (normalize keyword) = some entry) :
    entry.family = .required ↔ keyword = requiredKeyword := by
  have honly : ∀ entry ∈ entries, entry.family = .required →
      entry.name :: entry.aliases = [requiredKeyword] := by
    decide
  have hreserved : normalize requiredKeyword = requiredKeyword := by decide
  constructor
  · intro hfamily
    obtain ⟨hmem, hkeyword⟩ := of_findEntry hentry
    rw [honly entry hmem hfamily, List.mem_singleton] at hkeyword
    exact (normalize_eq_iff_of_not_mem hreserved (by decide)).1 hkeyword
  · rintro rfl
    have hfound : findEntry (normalize requiredKeyword) =
        some ⟨requiredKeyword, [], .required, "INVALID_REQUIRED"⟩ := rfl
    cases hfound.symm.trans hentry
    rfl

/-! ## Validators that make a field required -/

theorem isRequired_of_patternTest {e : Pattern.Expr} (h : patternTest rule e = .ok test) :
    test.isRequired = false := by
  obtain ⟨p, -, rfl⟩ := map_eq_ok h
  rfl

theorem isRequired_of_lengthTest (h : lengthTest rule bound params = .ok test) :
    test.isRequired = false := by
  obtain ⟨bounds, -, h⟩ := bind_eq_ok h
  exact isRequired_of_patternTest h

theorem isRequired_of_numberTest (h : numberTest rule bound params = .ok test) :
    test.isRequired = false := by
  obtain ⟨conditions, -, rfl⟩ := map_eq_ok h
  rfl

theorem isRequired_of_digitsTest (h : digitsTest rule params = .ok test) :
    test.isRequired = false := by
  unfold digitsTest at h
  split at h
  · obtain ⟨n, -, h⟩ := bind_eq_ok h
    exact isRequired_of_patternTest h
  · obtain ⟨range, -, h⟩ := bind_eq_ok h
    exact isRequired_of_patternTest h
  · exact isRequired_of_patternTest h

/-- Of the rules of the table, those of one family make a field required. -/
theorem isRequired_of_build (h : entry.build clause literal = .ok v) :
    v.isRequired = true ↔ entry.family = .required := by
  have hnot : ∀ {check : Check} {family : Family}, check.isRequired = false → family ≠ .required →
      (check.isRequired = true ↔ family = .required) :=
    fun hcheck hfamily => iff_of_false (Bool.eq_false_iff.1 hcheck) hfamily
  obtain ⟨-, -, hmakes⟩ := makes_of_build h
  rw [v.isRequired_eq]
  generalize entry.family = family, v.params = shown, v.check = check at hmakes ⊢
  cases hmakes with
  | required => exact iff_of_true rfl rfl
  | fixed htest => exact hnot (isRequired_of_patternTest htest) nofun
  | length htest => exact hnot (isRequired_of_lengthTest htest) nofun
  | number htest => exact hnot (isRequired_of_numberTest htest) nofun
  | digits htest | digitsBetween htest => exact hnot (isRequired_of_digitsTest htest) nofun
  | auto hcheck =>
    obtain ⟨length, number, rfl, -⟩ := of_autoCheck hcheck
    exact hnot rfl nofun
  | list | matching | custom | remote | literal => exact hnot rfl nofun

/-- No date rule makes a field required. -/
theorem isRequired_of_buildDate {f : Date.Format} {bound : Option Bound}
    (h : buildDate name f bound params = .ok v) : v.isRequired = false := by
  obtain ⟨p, conditions, -, rfl, -⟩ := of_buildDate h
  rfl

/-! ## Clauses and chains -/

/-- A clause makes its field required if its keyword is the reserved one. -/
theorem isRequired_of_resolve (h : clause.resolve literal = .ok v) :
    v.isRequired = true ↔ clause.name = requiredKeyword := by
  cases hentry : findEntry (normalize clause.name) with
  | some entry =>
    rw [resolve_eq_of_findEntry hentry] at h
    obtain ⟨built, hbuilt, rfl⟩ := map_eq_ok h
    exact (isRequired_of_build hbuilt).trans (family_eq_required_iff hentry)
  | none =>
    have hname : clause.name ≠ requiredKeyword := by
      intro hname
      rw [hname] at hentry
      cases hentry
    refine iff_of_false ?_ hname
    cases hdate : findDate (normalize clause.name) with
    | some found =>
      rw [resolve_eq_of_findDate literal hdate] at h
      obtain ⟨built, hbuilt, rfl⟩ := map_eq_ok h
      have hnot : built.isRequired = false := isRequired_of_buildDate hbuilt
      exact Bool.eq_false_iff.1 hnot
    | none =>
      unfold Clause.resolve at h
      dsimp only at h
      rw [hentry, hdate] at h
      cases h

/-- A chain has a required validator if the reserved keyword is among its keywords. -/
theorem any_isRequired_of_mapM {clauses : List Clause}
    (h : clauses.mapM (·.resolve literal) = .ok validators) :
    validators.any (·.isRequired) = clauses.any (·.name == requiredKeyword) := by
  induction clauses generalizing validators with
  | nil =>
    cases h
    rfl
  | cons clause clauses ih =>
    rw [List.mapM_cons] at h
    obtain ⟨v, hv, h⟩ := bind_eq_ok h
    obtain ⟨others, hothers, h⟩ := bind_eq_ok h
    cases h
    have hhead : v.isRequired = (clause.name == requiredKeyword) := by
      rw [Bool.eq_iff_iff, beq_iff_eq]
      exact isRequired_of_resolve hv
    rw [List.any_cons, List.any_cons, hhead, ih hothers]

/-- The ranges of a chain that is read have two bounds. -/
theorem length_params_of_parse {rules : String} (hparse : Chain.parse rules = .ok chain)
    (hmem : clause ∈ chain.clauses) (hrange : (rangeSyntax clause.name).isSome = true) :
    clause.params.length = 2 := by
  obtain ⟨rest, -, hclauses, -⟩ := Chain.parse_eq_ok_iff.1 hparse
  obtain ⟨text, -, hchecked⟩ := mem_of_mapM_eq_ok hclauses clause hmem
  obtain ⟨rfl, hlength⟩ := checkRange_eq_ok_iff.1 hchecked
  exact hlength hrange

/-- A chain that compiles makes its field required just if one of its validators is the one for
required values.  In a chain that is read, no clause of a rule with two bounds is refused for the
number of its parameters. -/
theorem parse_agrees_resolve (rules : String) :
    (∀ compiled, compile rules = .ok compiled →
      (compiled.required = true ↔ ∃ v ∈ compiled.validators, v.isRequired = true)) ∧
    ∀ chain, Chain.parse rules = .ok chain → ∀ clause ∈ chain.clauses,
      ∀ literal rule expected actual,
        clause.resolve literal = .error (.paramCount rule expected actual) →
          rangeSyntax clause.name = none := by
  constructor
  · intro compiled hcompile
    obtain ⟨chain, hparse, h⟩ := bind_eq_ok hcompile
    obtain ⟨validators, hvalidators, h⟩ := bind_eq_ok h
    cases h
    obtain ⟨_, -, -, hrequired⟩ := Chain.parse_eq_ok_iff.1 hparse
    rw [hrequired, ← any_isRequired_of_mapM hvalidators, List.any_eq_true]
  · intro chain hparse clause hmem literal rule expected actual hresolve
    obtain ⟨hsignature, rfl, hadmits⟩ := resolve_eq_paramCount_iff.1 hresolve
    rw [← Option.not_isSome_iff_eq_none]
    intro hrange
    obtain ⟨_, htwo⟩ := isSome_rangeSyntax_iff.1 hrange
    cases hsignature.symm.trans htwo
    rw [length_params_of_parse hparse hmem hrange] at hadmits
    cases hadmits

/-- A chain with the reserved keyword, and one with a range and a clause that has too many
parameters. -/
theorem parse_agrees_resolve_mixed :
    (∃ compiled, compile "alpha|required:alt=Needed|betweenLen:1,5" = .ok compiled ∧
      ∃ v ∈ compiled.validators, v.isRequired = true) ∧
    Chain.parse "dateIsoBetween:2024-01-01,2024-01-02|matchInput:a,b,c" =
        .ok ⟨[⟨"dateIsoBetween", ["2024-01-01", "2024-01-02"], none⟩,
          ⟨"matchInput", ["a", "b", "c"], none⟩], none, false⟩ ∧
      Clause.resolve ⟨"matchInput", ["a", "b", "c"], none⟩ none =
        .error (.paramCount "match" .oneOrTwo 3) ∧
      rangeSyntax "matchInput" = none := by
  have hcompiled : (compile "alpha|required:alt=Needed|betweenLen:1,5").toOption.map (·.required) =
      some true := by
    decide +kernel
  obtain ⟨compiled, hcompile, hrequired⟩ := Option.map_eq_some_iff.1 hcompiled
  have hcompile := eq_ok_of_toOption hcompile
  have hparse : Chain.parse "dateIsoBetween:2024-01-01,2024-01-02|matchInput:a,b,c" =
      .ok ⟨[⟨"dateIsoBetween", ["2024-01-01", "2024-01-02"], none⟩,
        ⟨"matchInput", ["a", "b", "c"], none⟩], none, false⟩ := by
    decide +kernel
  have hresolve : Clause.resolve ⟨"matchInput", ["a", "b", "c"], none⟩ none =
      .error (.paramCount "match" .oneOrTwo 3) := rfl
  exact ⟨⟨compiled, hcompile, ((parse_agrees_resolve _).1 compiled hcompile).1 hrequired⟩,
    hparse, hresolve, (parse_agrees_resolve _).2 _ hparse _ (by simp) none _ _ _ hresolve⟩

end Rule

end FieldRules
