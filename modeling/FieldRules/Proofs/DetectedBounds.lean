import FieldRules.Proofs.PlainChains
import FieldRules.Proofs.RenamedClauses

/-!
# Bounds whose meaning the value decides

The rules `min`, `max` and `between` take their bounds for lengths or for numbers, as
the value has it.  For each value there is a rule that says in its keyword what they
mean: with this keyword in place of the other, the chain is evaluated in the same way.

* `Bound.explicit`: the keyword that says what the bounds mean for a value.
* `Validator.Agrees`, `Engine.run_eq_of_agree`: validators that act in the same way.
* `exists_agreeing`: a clause and its explicit form act in the same way.
* `evaluate_explicit`: a chain and its explicit form are evaluated in the same way.
-/

namespace FieldRules

/-! ## Validators that act in the same way -/

/-- For a value, one validator does what the other one does. -/
structure Validator.Agrees (value : Option String) (others : String → Option String)
    (v w : Validator) : Prop where
  callback : v.callback? = w.callback?
  target : v.target? = w.target?
  passes : v.passes? value others = w.passes? value others
  failureKey : v.failureKey (value.getD "") = w.failureKey (value.getD "")
  key : v.callback?.isSome = true → v.key = w.key
  params : v.params = w.params
  alt : v.alt = w.alt

theorem Validator.Agrees.refl (value : Option String) (others : String → Option String)
    (v : Validator) : Validator.Agrees value others v v :=
  ⟨rfl, rfl, rfl, rfl, fun _ => rfl, rfl, rfl⟩

namespace Engine

variable {engine : Engine} {value : Option String} {others : String → Option String}
  {validators validators' : List Validator}

/-- Chains of validators that act in the same way are run in the same way. -/
theorem run_eq_of_agree
    (hagree : List.Forall₂ (Validator.Agrees value others) validators validators') :
    ∀ (index : Nat) (e : Evaluation), engine.run value others index validators e =
      engine.run value others index validators' e := by
  induction hagree with
  | nil => exact fun _ _ => rfl
  | @cons v w rest rest' hhead _ ih =>
    intro index e
    rw [run, run, hhead.callback, hhead.target, hhead.passes, hhead.failureKey, hhead.params,
      hhead.alt]
    cases hcallback : w.callback? with
    | some called =>
      have hkey := hhead.key (by rw [hhead.callback, hcallback]; rfl)
      have hcheck : Evaluation.pendingCheck v index called.1 called.2 =
          Evaluation.pendingCheck w index called.1 called.2 := by
        rw [Evaluation.pendingCheck, Evaluation.pendingCheck, hkey, hhead.params, hhead.alt]
      dsimp only
      rw [hcheck, ih]
    | none => simp only [ih]

/-- Fields with chains of validators that act in the same way are evaluated in the same
way. -/
theorem evaluate_eq_of_agree {compiled compiled' : Rule.Compiled} (state : FieldState)
    (rules rules' : String) (hrequired : compiled'.required = compiled.required)
    (hagree : List.Forall₂ (Validator.Agrees value others) compiled'.validators
      compiled.validators) :
    engine.evaluate (state.withRules rules' compiled') value others =
      engine.evaluate (state.withRules rules compiled) value others := by
  have hskips : skips (state.withRules rules' compiled') value =
      skips (state.withRules rules compiled) value := by
    unfold skips FieldState.withRules
    rw [hrequired]
  unfold evaluate
  rw [hskips]
  dsimp only [FieldState.withRules]
  rw [hagree.length_eq, run_eq_of_agree hagree]

end Engine

namespace Rule

/-! ## Keywords -/

namespace Bound

/-- The keyword of the rule whose bounds mean lengths or numbers. -/
def keyword : Bound → String
  | exact => "size"
  | min => "min"
  | max => "max"
  | between => "between"

/-- The keyword of the rule whose bounds mean lengths. -/
def lengthKeyword : Bound → String
  | exact => "exact_len"
  | min => "min_len"
  | max => "max_len"
  | between => "between_len"

/-- The keyword of the rule whose bounds mean numbers.  There is no such rule for one
exact number. -/
def numberKeyword : Bound → String
  | exact => "exact_num"
  | min => "min_num"
  | max => "max_num"
  | between => "between_num"

/-- The keyword that says what bounds mean for a value: numbers if the value is a number
or some bound is not a count of characters, and lengths otherwise. -/
def explicit (bound : Bound) (params : List String) (value : Option String) : String :=
  if (Number.parse (value.getD "")).isSome || !allCounts bound.keyword params then
    bound.numberKeyword
  else
    bound.lengthKeyword

/-- The message key of the rule whose bounds mean lengths. -/
def lengthKey : Bound → String
  | exact => "INVALID_EXACT_LEN"
  | min => "INVALID_MIN_CHAR"
  | max => "INVALID_MAX_CHAR"
  | between => "INVALID_BETWEEN_CHAR"

end Bound

variable {bound : Bound} {params : List String} {value : Option String}

theorem Bound.explicit_cases (bound : Bound) (params : List String) (value : Option String) :
    bound.explicit params value = bound.numberKeyword ∨
      bound.explicit params value = bound.lengthKeyword := by
  unfold explicit
  split
  · exact .inl rfl
  · exact .inr rfl

theorem keyword_keyword (bound : Bound) : Keyword bound.keyword.toList := by
  cases bound <;> exact ⟨by decide, by decide, by decide +kernel, by decide⟩

theorem keyword_explicit (bound : Bound) (params : List String) (value : Option String) :
    Keyword (bound.explicit params value).toList := by
  rcases bound.explicit_cases params value with heq | heq
  all_goals
    rw [heq]
    cases bound <;> exact ⟨by decide, by decide, by decide +kernel, by decide⟩

/-- Only the rules with two bounds are read as rules with two bounds. -/
theorem between_of_rangeSyntax
    (h : (rangeSyntax (bound.explicit params value)).isSome = true) : bound = .between := by
  rcases bound.explicit_cases params value with heq | heq
  all_goals
    rw [heq] at h
    revert h
    cases bound <;> decide +kernel

theorem explicit_ne_required : bound.explicit params value ≠ requiredKeyword := by
  rcases bound.explicit_cases params value with heq | heq
  all_goals
    rw [heq]
    cases bound <;> decide

theorem findEntry_keyword (bound : Bound) :
    ∃ aliases, findEntry (normalize bound.keyword) =
      some ⟨bound.keyword, aliases, .auto bound, bound.lengthKey⟩ := by
  cases bound
  case between => exact ⟨["range"], rfl⟩
  all_goals exact ⟨[], rfl⟩

theorem findEntry_lengthKeyword (bound : Bound) :
    findEntry (normalize bound.lengthKeyword) =
      some ⟨bound.lengthKeyword, [], .length bound, bound.lengthKey⟩ := by
  cases bound <;> rfl

theorem findEntry_numberKeyword (hbound : bound ≠ .exact) :
    findEntry (normalize bound.numberKeyword) =
      some ⟨bound.numberKeyword, [], .number bound, bound.numericKey⟩ := by
  cases bound
  case exact => exact absurd rfl hbound
  all_goals rfl

/-! ## Tests of another rule

A rule gives its name to the errors about its bounds, and to nothing else. -/

variable {rule rule' : String} {raw lo hi text : String} {test : Test}

theorem numberBound_of (h : numberBound rule raw = .ok text) : numberBound rule' raw = .ok text := by
  unfold numberBound at h ⊢
  split at h
  · next hparse =>
    rw [if_pos hparse]
    exact h
  · cases h

theorem countBound_of {n : Nat} (h : countBound rule raw = .ok n) :
    countBound rule' raw = .ok n := by
  unfold countBound at h ⊢
  cases hread : Text.unsigned? Text.countLimit (Text.trim raw.toList) with
  | none =>
    rw [hread] at h
    cases h
  | some count =>
    rw [hread] at h
    exact h

theorem countRange_of {range : Nat × Nat} (h : countRange rule lo hi = .ok range) :
    countRange rule' lo hi = .ok range := by
  obtain ⟨least, hleast, h⟩ := bind_eq_ok h
  obtain ⟨greatest, hgreatest, h⟩ := bind_eq_ok h
  unfold countRange
  rw [countBound_of hleast, countBound_of hgreatest]
  change (if least ≤ greatest then _ else _) = _
  split at h
  · next hle =>
    rw [if_pos hle]
    exact h
  · cases h

theorem boundConditions_of {read read' : String → Except ConfigError String}
    {conditions : List Condition}
    (hread : ∀ raw text, read raw = .ok text → read' raw = .ok text)
    (h : boundConditions bound read params = .ok conditions) :
    boundConditions bound read' params = .ok conditions := by
  unfold boundConditions at h ⊢
  split at h
  case h_4 lo hi _ =>
    obtain ⟨least, hleast, h⟩ := bind_eq_ok h
    obtain ⟨greatest, hgreatest, h⟩ := bind_eq_ok h
    rw [hread lo least hleast, hread hi greatest hgreatest]
    exact h
  case h_5 => exact h
  all_goals
    obtain ⟨text, htext, h⟩ := bind_eq_ok h
    rw [hread _ text htext]
    exact h

theorem numberTest_of (h : numberTest rule bound params = .ok test) :
    numberTest rule' bound params = .ok test := by
  obtain ⟨conditions, hconditions, rfl⟩ := map_eq_ok h
  unfold numberTest
  rw [boundConditions_of (fun _ _ => numberBound_of) hconditions]
  rfl

theorem lengthBounds_of {bounds : Nat × Option Nat}
    (h : lengthBounds rule bound params = .ok bounds) :
    lengthBounds rule' bound params = .ok bounds := by
  unfold lengthBounds at h ⊢
  split at h
  case h_4 lo hi _ =>
    obtain ⟨range, hrange, rfl⟩ := map_eq_ok h
    rw [countRange_of hrange]
    rfl
  case h_5 => exact h
  all_goals
    obtain ⟨n, hn, rfl⟩ := map_eq_ok h
    rw [countBound_of hn]
    rfl

theorem buildPattern_of {e : Pattern.Expr} {p : Pattern} (h : buildPattern rule e = .ok p) :
    buildPattern rule' e = .ok p := by
  unfold buildPattern at h ⊢
  cases hbuild : Pattern.build? e with
  | none =>
    rw [hbuild] at h
    cases h
  | some built =>
    rw [hbuild] at h
    exact h

theorem lengthTest_of (h : lengthTest rule bound params = .ok test) :
    lengthTest rule' bound params = .ok test := by
  obtain ⟨bounds, hbounds, h⟩ := bind_eq_ok h
  obtain ⟨p, hp, rfl⟩ := map_eq_ok h
  unfold lengthTest patternTest
  rw [lengthBounds_of hbounds]
  change (buildPattern rule' _).map _ = _
  rw [buildPattern_of hp]
  rfl

theorem expectParams_of {expected : Arity} (h : expectParams rule params expected = .ok params) :
    expectParams rule' params expected = .ok params := by
  have hadmits := (of_expectParams h).2
  unfold expectParams
  rw [if_pos hadmits]

/-! ## The clause and its explicit form -/

variable {clause : Clause} {literal : Option LiteralPattern} {v : Validator}

/-- What a clause of a rule with two shapes is built into. -/
theorem of_resolve_keyword (hname : clause.name = bound.keyword)
    (h : clause.resolve literal = .ok v) :
    ∃ length number,
      v = ⟨bound.keyword, bound.lengthKey, clause.params, clause.alt,
        .auto length ⟨bound.numericKey, number⟩⟩ ∧
      expectParams bound.keyword clause.params bound.arity = .ok clause.params ∧
      numberTest bound.keyword bound clause.params = .ok number ∧
      if allCounts bound.keyword clause.params then
        ∃ test, lengthTest bound.keyword bound clause.params = .ok test ∧
          length = some ⟨bound.lengthKey, test⟩
      else
        length = none := by
  obtain ⟨aliases, hentry⟩ := findEntry_keyword bound
  unfold Clause.resolve at h
  dsimp only at h
  rw [hname, hentry] at h
  obtain ⟨built, hbuilt, h⟩ := bind_eq_ok h
  cases h
  obtain ⟨params, hparams, hbuilt⟩ := bind_eq_ok hbuilt
  obtain ⟨check, hcheck, hbuilt⟩ := bind_eq_ok hbuilt
  cases hbuilt
  obtain ⟨rfl, -⟩ := of_expectParams hparams
  obtain ⟨number, hnumber, hcheck⟩ := bind_eq_ok hcheck
  dsimp only at hcheck
  split at hcheck
  · next hcounts =>
    obtain ⟨length, hlength, hcheck⟩ := bind_eq_ok hcheck
    cases hcheck
    obtain ⟨test, htest, rfl⟩ := map_eq_ok hlength
    refine ⟨_, number, rfl, hparams, hnumber, ?_⟩
    rw [if_pos hcounts]
    exact ⟨test, htest, rfl⟩
  · next hcounts =>
    cases hcheck
    refine ⟨none, number, rfl, hparams, hnumber, ?_⟩
    rw [if_neg hcounts]

/-- What a clause of a rule on numbers is built into. -/
theorem resolve_numberKeyword (hbound : bound ≠ .exact)
    (hparams : expectParams rule params bound.arity = .ok params)
    (hnumber : numberTest rule bound params = .ok test) (alt : Option String) :
    Clause.resolve ⟨bound.numberKeyword, params, alt⟩ literal =
      .ok ⟨bound.numberKeyword, bound.numericKey, params, alt, .test test⟩ := by
  unfold Clause.resolve
  dsimp only
  rw [findEntry_numberKeyword hbound]
  dsimp only [Entry.build]
  rw [expectParams_of hparams]
  change ((do let found ← numberTest _ bound params; _) >>= _) = _
  rw [numberTest_of hnumber]
  rfl

/-- What a clause of a rule on lengths is built into. -/
theorem resolve_lengthKeyword (hparams : expectParams rule params bound.arity = .ok params)
    (hlength : lengthTest rule bound params = .ok test) (alt : Option String) :
    Clause.resolve ⟨bound.lengthKeyword, params, alt⟩ literal =
      .ok ⟨bound.lengthKeyword, bound.lengthKey, params, alt, .test test⟩ := by
  unfold Clause.resolve
  dsimp only
  rw [findEntry_lengthKeyword]
  dsimp only [Entry.build]
  rw [expectParams_of hparams]
  change ((do let found ← lengthTest _ bound params; _) >>= _) = _
  rw [lengthTest_of hlength]
  rfl

/-- The explicit form of a clause is built into a validator that does for the value what
the validator of the clause does. -/
theorem exists_agreeing (hbound : bound ≠ .exact) (hname : clause.name = bound.keyword)
    (h : clause.resolve literal = .ok v) (value : Option String)
    (others : String → Option String) :
    ∃ w, Clause.resolve { clause with name := bound.explicit clause.params value } literal =
        .ok w ∧ Validator.Agrees value others w v := by
  obtain ⟨length, number, rfl, hparams, hnumber, hlength⟩ := of_resolve_keyword hname h
  unfold Bound.explicit
  split
  · next hnumeric =>
    have hchoose : chooseShape length ⟨bound.numericKey, number⟩ (value.getD "") =
        ⟨bound.numericKey, number⟩ := by
      unfold chooseShape
      rw [Bool.or_eq_true, Bool.not_eq_true'] at hnumeric
      rcases hnumeric with hvalue | hcounts
      · rw [if_pos hvalue]
      · rw [hcounts, if_neg Bool.false_ne_true] at hlength
        rw [hlength, Option.getD_none, ite_self]
    refine ⟨_, resolve_numberKeyword hbound hparams hnumber clause.alt, ?_⟩
    refine ⟨rfl, rfl, ?_, ?_, nofun, rfl, rfl⟩
    · dsimp only [Validator.passes?]
      rw [hchoose]
    · dsimp only [Validator.failureKey]
      rw [hchoose]
  · next hnumeric =>
    rw [Bool.or_eq_true, not_or, Bool.not_eq_true', Bool.not_eq_false] at hnumeric
    rw [if_pos hnumeric.2] at hlength
    obtain ⟨test, htest, rfl⟩ := hlength
    have hchoose : chooseShape (some ⟨bound.lengthKey, test⟩) ⟨bound.numericKey, number⟩
        (value.getD "") = ⟨bound.lengthKey, test⟩ := by
      unfold chooseShape
      rw [if_neg hnumeric.1, Option.getD_some]
    refine ⟨_, resolve_lengthKeyword hparams htest clause.alt, ?_⟩
    refine ⟨rfl, rfl, ?_, ?_, nofun, rfl, rfl⟩
    · dsimp only [Validator.passes?]
      rw [hchoose]
    · dsimp only [Validator.failureKey]
      rw [hchoose]

/-! ## Chains -/

theorem compile_of_parse {rules : String} {chain : Chain} {validators : List Validator}
    (hparse : Chain.parse rules = .ok chain)
    (hvalidators : chain.clauses.mapM (·.resolve chain.literal) = .ok validators) :
    compile rules = .ok ⟨validators, chain.required⟩ := by
  unfold compile
  rw [hparse]
  change (chain.clauses.mapM (·.resolve chain.literal) >>=
    fun validators => pure (Compiled.mk validators chain.required)) = _
  rw [hvalidators]
  rfl

/-- A clause with `min`, `max` or `between` can be written with the keyword that says
what its bounds mean for a value.  The chain is read as before, compiles, and for this
value its evaluation is the same, whatever the settings of the field, the messages and
the other values are. -/
theorem evaluate_explicit {rules : String} {chain : Chain} {compiled : Compiled}
    {earlier later : List Clause} (hparse : Chain.parse rules = .ok chain)
    (hcompile : compile rules = .ok compiled)
    (hclauses : chain.clauses = earlier ++ clause :: later) (hbound : bound ≠ .exact)
    (hname : clause.name = bound.keyword) :
    ∃ left right, rules = left ++ bound.keyword ++ right ∧ ∀ value : Option String,
      Chain.parse (left ++ bound.explicit clause.params value ++ right) =
          .ok { chain with clauses := earlier ++
            { clause with name := bound.explicit clause.params value } :: later } ∧
        ∃ explicit, compile (left ++ bound.explicit clause.params value ++ right) = .ok explicit ∧
          ∀ (engine : Engine) (state : FieldState) (others : String → Option String),
            engine.evaluate (state.withRules
                (left ++ bound.explicit clause.params value ++ right) explicit) value others =
              engine.evaluate (state.withRules rules compiled) value others := by
  have hpattern : bound.keyword.toList ≠ Literal.placeholder := by
    cases bound <;> decide
  have hrequired : bound.keyword ≠ requiredKeyword := by
    cases bound <;> decide
  -- the validators of the chain, with the one of the clause among them
  obtain ⟨read, hread, hcompile⟩ := bind_eq_ok hcompile
  obtain rfl : read = chain := Except.ok.inj (hread.symm.trans hparse)
  obtain ⟨validators, hvalidators, heq⟩ := bind_eq_ok hcompile
  cases heq
  rw [hclauses, List.mapM_append, List.mapM_cons] at hvalidators
  obtain ⟨before, hbefore, hvalidators⟩ := bind_eq_ok hvalidators
  obtain ⟨behind, hbehind, heq⟩ := bind_eq_ok hvalidators
  cases heq
  obtain ⟨v, hv, hbehind⟩ := bind_eq_ok hbehind
  obtain ⟨after, hafter, heq⟩ := bind_eq_ok hbehind
  cases heq
  obtain ⟨left, right, hrules, hrename⟩ :=
    Chain.parse_rename hparse hclauses (keyword_keyword bound) hname hpattern
  refine ⟨left, right, hrules, fun value => ?_⟩
  have hrange : (rangeSyntax (bound.explicit clause.params value)).isSome = true →
      clause.params.length = 2 := by
    intro hrange
    obtain rfl := between_of_rangeSyntax hrange
    obtain ⟨-, -, -, hparams, -⟩ := of_resolve_keyword hname hv
    exact length_of_expectParams hparams
  have hexplicit := hrename _ (keyword_explicit bound clause.params value) hrange
    (iff_of_false explicit_ne_required hrequired)
  obtain ⟨w, hw, -⟩ := exists_agreeing hbound hname hv value fun _ => none
  refine ⟨hexplicit, ⟨before ++ w :: after, read.required⟩, ?_, fun engine state others => ?_⟩
  · have hvalidators : (earlier ++ { clause with name := bound.explicit clause.params value } ::
        later).mapM (·.resolve read.literal) = .ok (before ++ w :: after) := by
      rw [List.mapM_append, hbefore, List.mapM_cons, hw, hafter]
      rfl
    have hcompile := compile_of_parse hexplicit hvalidators
    exact hcompile
  · obtain ⟨w', hw', hagree⟩ := exists_agreeing hbound hname hv value others
    obtain rfl : w' = w := Except.ok.inj (hw'.symm.trans hw)
    refine Engine.evaluate_eq_of_agree state rules _ rfl ?_
    have hrefl : ∀ vs : List Validator, List.Forall₂ (Validator.Agrees value others) vs vs :=
      fun vs => List.forall₂_same.2 fun v _ => .refl value others v
    exact List.rel_append (hrefl before) (.cons hagree (hrefl after))

/-- A chain with a pattern before the clause, which has blanks, a bound that is no count
and a message text.  It can be written with `between_num` for every value. -/
theorem evaluate_explicit_fractions :
    ∃ compiled, compile "alpha_num|pattern=/^(a|2)/i| between : 1.5, 3 :alt=Off by {0}.|required" =
        .ok compiled ∧
      ∃ left right,
        "alpha_num|pattern=/^(a|2)/i| between : 1.5, 3 :alt=Off by {0}.|required" =
          left ++ "between" ++ right ∧
        ∀ value : Option String, ∃ explicit,
          compile (left ++ Bound.between.explicit ["1.5", "3"] value ++ right) = .ok explicit ∧
            ∀ (state : FieldState) (others : String → Option String),
              Engine.english.evaluate (state.withRules
                  (left ++ Bound.between.explicit ["1.5", "3"] value ++ right) explicit) value others =
                Engine.english.evaluate (state.withRules
                  "alpha_num|pattern=/^(a|2)/i| between : 1.5, 3 :alt=Off by {0}.|required" compiled)
                  value others := by
  have hparse : Chain.parse
      "alpha_num|pattern=/^(a|2)/i| between : 1.5, 3 :alt=Off by {0}.|required" =
        .ok ⟨[⟨"alpha_num", [], none⟩, ⟨"pattern", [], none⟩] ++
            ⟨"between", ["1.5", "3"], some "Off by {0}."⟩ :: [⟨"required", [], none⟩],
          some ⟨"^(a|2)", "i", none⟩, true⟩ := by
    decide +kernel
  have hcompile : ((compile
      "alpha_num|pattern=/^(a|2)/i| between : 1.5, 3 :alt=Off by {0}.|required").toOption).isSome =
        true := by
    decide +kernel
  obtain ⟨compiled, hcompiled⟩ := exists_eq_ok_of_isSome hcompile
  obtain ⟨left, right, hrules, hall⟩ :=
    evaluate_explicit hparse hcompiled rfl (by decide) (show _ = Bound.between.keyword from rfl)
  refine ⟨compiled, hcompiled, left, right, hrules, fun value => ?_⟩
  obtain ⟨-, explicit, hexplicit, heval⟩ := hall value
  exact ⟨explicit, hexplicit, fun state others => heval Engine.english state others⟩

end Rule

end FieldRules
