import FieldRules.Proofs.DateBounds

/-!
# How many parameters rules expect

The number of parameters of a clause is looked at first, and by nothing that comes later.  So
the error about it tells exactly which rules expect how many.

* `signature?`: the rule that a keyword names, and how many parameters it expects.
* `NotAboutCount`: no error of a computation is about the number of parameters.
* `exists_build_eq`, `exists_buildDate_eq`: only the first step of a rule looks at it.
* `resolve_eq_paramCount_iff`: which clauses are refused for it.
* `isSome_rangeSyntax_iff`: the rules that are written with two bounds are those that expect
  two parameters.
-/

namespace FieldRules.Rule

open Date

/-! ## What rules expect -/

/-- How many parameters a date rule expects. -/
def dateArity (bound : Option Bound) : Arity :=
  bound.elim .zero Bound.arity

/-- The name of the rule that a keyword stands for, and how many parameters it expects. -/
def signature? (keyword : String) : Option (String × Arity) :=
  match findEntry (normalize keyword) with
  | some entry => some (entry.name, entry.family.arity)
  | none => (findDate (normalize keyword)).map fun (_, bound) =>
      (normalize keyword, dateArity bound)

/-- The computation does not fail because of a number of parameters. -/
def NotAboutCount {α : Type} (x : Except ConfigError α) : Prop :=
  ∀ rule expected actual, x ≠ .error (.paramCount rule expected actual)

variable {α β : Type} {x : Except ConfigError α} {rule : String} {params : List String}
  {clause : Clause} {literal : Option LiteralPattern} {arity expected : Arity} {actual : Nat}

/-! ## Computations that do not look at the number -/

namespace NotAboutCount

theorem ok (a : α) : NotAboutCount (.ok a) :=
  fun _ _ _ => nofun

theorem bind {f : α → Except ConfigError β} (hx : NotAboutCount x)
    (hf : ∀ a, NotAboutCount (f a)) : NotAboutCount (x >>= f) := by
  intro rule expected actual h
  rcases bind_eq_error h with h | ⟨a, -, h⟩
  · exact hx rule expected actual h
  · exact hf a rule expected actual h

theorem map (hx : NotAboutCount x) (f : α → β) : NotAboutCount (x.map f) :=
  fun rule expected actual h => hx rule expected actual (map_eq_error_iff.1 h)

end NotAboutCount

theorem notAboutCount_countBound (rule raw : String) : NotAboutCount (countBound rule raw) := by
  unfold countBound
  split <;> exact fun _ _ _ => nofun

theorem notAboutCount_countRange (rule lo hi : String) :
    NotAboutCount (countRange rule lo hi) := by
  refine (notAboutCount_countBound rule lo).bind fun least => ?_
  refine (notAboutCount_countBound rule hi).bind fun greatest => ?_
  split <;> exact fun _ _ _ => nofun

theorem notAboutCount_numberBound (rule raw : String) : NotAboutCount (numberBound rule raw) := by
  unfold numberBound
  split <;> exact fun _ _ _ => nofun

theorem notAboutCount_dateBound (f : Format) (rule raw : String) :
    NotAboutCount (dateBound f rule raw) := by
  unfold dateBound
  split <;> exact fun _ _ _ => nofun

theorem notAboutCount_boundConditions {read : String → Except ConfigError String}
    (hread : ∀ raw, NotAboutCount (read raw)) (bound : Bound) (params : List String) :
    NotAboutCount (boundConditions bound read params) := by
  unfold boundConditions
  split
  case h_4 lo hi _ => exact (hread lo).bind fun _ => (hread hi).bind fun _ => .ok _
  case h_5 => exact .ok _
  all_goals exact (hread _).bind fun _ => .ok _

theorem notAboutCount_buildPattern (rule : String) (e : Pattern.Expr) :
    NotAboutCount (buildPattern rule e) := by
  unfold buildPattern
  split <;> exact fun _ _ _ => nofun

theorem notAboutCount_buildLiteral (rule : String) (literal : LiteralPattern) :
    NotAboutCount (buildLiteral rule literal) := by
  unfold buildLiteral
  split <;> exact fun _ _ _ => nofun

theorem notAboutCount_patternTest (rule : String) (e : Pattern.Expr) :
    NotAboutCount (patternTest rule e) :=
  (notAboutCount_buildPattern rule e).map _

theorem notAboutCount_lengthTest (rule : String) (bound : Bound) (params : List String) :
    NotAboutCount (lengthTest rule bound params) := by
  have hbounds : NotAboutCount (lengthBounds rule bound params) := by
    unfold lengthBounds
    split
    case h_4 lo hi _ => exact (notAboutCount_countRange rule lo hi).map _
    case h_5 => exact .ok _
    all_goals exact (notAboutCount_countBound rule _).map _
  exact hbounds.bind fun _ => notAboutCount_patternTest rule _

theorem notAboutCount_numberTest (rule : String) (bound : Bound) (params : List String) :
    NotAboutCount (numberTest rule bound params) :=
  (notAboutCount_boundConditions (notAboutCount_numberBound rule) bound params).map _

theorem notAboutCount_digitsTest (rule : String) (params : List String) :
    NotAboutCount (digitsTest rule params) := by
  unfold digitsTest
  split
  · exact (notAboutCount_countBound rule _).bind fun _ => notAboutCount_patternTest rule _
  · exact (notAboutCount_countRange rule _ _).bind fun _ => notAboutCount_patternTest rule _
  · exact notAboutCount_patternTest rule _

theorem notAboutCount_autoCheck (entry : Entry) (bound : Bound) (params : List String) :
    NotAboutCount (autoCheck entry bound params) := by
  refine (notAboutCount_numberTest entry.name bound params).bind fun number => ?_
  dsimp only
  split
  · exact ((notAboutCount_lengthTest entry.name bound params).map _).bind fun _ => .ok _
  · exact .ok _

/-! ## The first step -/

/-- A computation that looks at the number of parameters first, and never again, fails because
of it if the number is not as expected. -/
theorem expectParams_bind_eq_paramCount_iff {build : List String → Except ConfigError α}
    (hbuild : ∀ params, NotAboutCount (build params)) {reported : String} :
    (expectParams rule params arity >>= build) = .error (.paramCount reported expected actual) ↔
      (reported, expected, actual) = (rule, arity, params.length) ∧
        arity.admits params.length = false := by
  unfold expectParams
  cases arity.admits params.length with
  | true => exact iff_of_false (hbuild params _ _ _) nofun
  | false =>
    rw [if_neg Bool.false_ne_true, and_iff_left rfl]
    constructor
    · intro h
      cases h
      rfl
    · intro h
      cases h
      rfl

/-- A rule of the table looks at the number of its parameters and then builds its validator. -/
theorem exists_build_eq (entry : Entry) (clause : Clause) (literal : Option LiteralPattern) :
    ∃ build : List String → Except ConfigError Validator,
      entry.build clause literal =
          (expectParams entry.name clause.params entry.family.arity >>= build) ∧
        ∀ params, NotAboutCount (build params) := by
  unfold Entry.build
  cases hfamily : entry.family with
  | required =>
    exact ⟨_, rfl, fun _ => (notAboutCount_buildPattern _ _).bind fun _ => .ok _⟩
  | fixed e => exact ⟨_, rfl, fun _ => (notAboutCount_patternTest _ e).bind fun _ => .ok _⟩
  | length bound =>
    exact ⟨_, rfl, fun params => (notAboutCount_lengthTest _ bound params).bind fun _ => .ok _⟩
  | number bound =>
    exact ⟨_, rfl, fun params => (notAboutCount_numberTest _ bound params).bind fun _ => .ok _⟩
  | auto bound =>
    exact ⟨_, rfl, fun params => (notAboutCount_autoCheck entry bound params).bind fun _ => .ok _⟩
  | digits | digitsBetween =>
    exact ⟨_, rfl, fun params => (notAboutCount_digitsTest _ params).bind fun _ => .ok _⟩
  | list negated => exact ⟨_, rfl, fun _ => (notAboutCount_buildPattern _ _).bind fun _ => .ok _⟩
  | matching | custom | remote => exact ⟨_, rfl, fun _ => .ok _⟩
  | literal =>
    refine ⟨_, rfl, fun _ => ?_⟩
    cases literal with
    | none => exact fun _ _ _ => nofun
    | some literal => exact (notAboutCount_buildLiteral _ literal).bind fun _ => .ok _

/-- A date rule looks at the number of its bounds and then reads them. -/
theorem exists_buildDate_eq (name : String) (f : Format) (bound : Option Bound)
    (params : List String) :
    ∃ build : List String → Except ConfigError Validator,
      buildDate name f bound params = (expectParams name params (dateArity bound) >>= build) ∧
        ∀ params, NotAboutCount (build params) := by
  have hrest : ∀ conditions, NotAboutCount do
      let p ← buildPattern name f.expr
      return (⟨name, dateMessageKey f bound, params, none, .test (.date f p conditions)⟩ :
        Validator) :=
    fun _ => (notAboutCount_buildPattern name f.expr).bind fun _ => .ok _
  cases bound with
  | none => exact ⟨fun _ => _, rfl, fun _ => hrest []⟩
  | some bound =>
    have hread := notAboutCount_boundConditions (notAboutCount_dateBound f name) bound
    exact ⟨fun kept => boundConditions bound (dateBound f name) kept >>= _, rfl,
      fun kept => (hread kept).bind hrest⟩

/-! ## Clauses -/

/-- A clause is refused for the number of its parameters just if its keyword names a rule that
expects another number. -/
theorem resolve_eq_paramCount_iff :
    clause.resolve literal = .error (.paramCount rule expected actual) ↔
      signature? clause.name = some (rule, expected) ∧ actual = clause.params.length ∧
        expected.admits actual = false := by
  cases hentry : findEntry (normalize clause.name) with
  | some entry =>
    obtain ⟨build, hbuild, hnot⟩ := exists_build_eq entry clause literal
    have hsignature : signature? clause.name = some (entry.name, entry.family.arity) := by
      unfold signature?
      rw [hentry]
    rw [resolve_eq_of_findEntry hentry, map_eq_error_iff, hbuild,
      expectParams_bind_eq_paramCount_iff hnot, hsignature]
    grind
  | none =>
    cases hdate : findDate (normalize clause.name) with
    | some found =>
      obtain ⟨f, bound⟩ := found
      obtain ⟨build, hbuild, hnot⟩ :=
        exists_buildDate_eq (normalize clause.name) f bound clause.params
      have hsignature : signature? clause.name = some (normalize clause.name, dateArity bound) := by
        unfold signature?
        rw [hentry, hdate]
        rfl
      rw [resolve_eq_of_findDate literal hdate, map_eq_error_iff, hbuild,
        expectParams_bind_eq_paramCount_iff hnot, hsignature]
      grind
    | none =>
      have hsignature : signature? clause.name = none := by
        unfold signature?
        rw [hentry, hdate]
        rfl
      have hresolve : clause.resolve literal = .error (.unknownRule clause.name) := by
        unfold Clause.resolve
        dsimp only
        rw [hentry, hdate]
        rfl
      rw [hresolve, hsignature]
      exact iff_of_false nofun nofun

/-- The rules that are written with two bounds are those that expect two parameters. -/
theorem isSome_rangeSyntax_iff {keyword : String} :
    (rangeSyntax keyword).isSome = true ↔ ∃ rule, signature? keyword = some (rule, .two) := by
  have hfamily : ∀ family : Family, family.isRange = true ↔ family.arity = .two := by
    intro family
    cases family with
    | length bound | number bound | auto bound => cases bound <;> decide
    | digitsBetween => decide
    | _ => exact iff_of_false Bool.false_ne_true nofun
  unfold rangeSyntax signature?
  dsimp only
  cases findEntry (normalize keyword) with
  | some entry =>
    dsimp only
    rw [Option.isSome_ite, hfamily]
    simp
  | none =>
    rcases findDate (normalize keyword) with _ | ⟨f, _ | bound⟩
    · simp
    · simp [dateArity]
    · cases bound <;> simp [dateArity, Bound.arity]

end FieldRules.Rule
