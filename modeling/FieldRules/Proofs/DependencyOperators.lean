import FieldRules.Proofs.DependencyEdges
import FieldRules.Proofs.LifeTime

/-!
# The operators of the dependencies

A dependency is stored with an operator.  When the rules compare a field with another one
several times, this is the operator by which they were compared last: the registration of
the field looks at all of its rules in turn, and an evaluation at those that it gets to.

* `lastOperator?`: the operator of the last target that names a field.
* `Dependencies.operator?`, `operator?_foldl`: the operator of a dependency, and what it is
  when some targets have been looked at.
* `Wired.operator?_eq_of_univocal`: rules that compare with a field by one operator only
  tell the operator.
* `Context.compared`: what an evaluation of a field would compare it with.
* `Life.operator?_evaluated`, `Life.operator?_settled`: what an evaluation and the replies of
  callbacks make of an operator.
-/

namespace FieldRules

/-! ## The last operator -/

/-- The operator of the last target that names a field. -/
def lastOperator? (targets : List Target) (source : String) : Option Operator :=
  (targets.reverse.find? (·.field = source)).map (·.operator)

theorem lastOperator?_append (targets others : List Target) (source : String) :
    lastOperator? (targets ++ others) source =
      (lastOperator? others source).or (lastOperator? targets source) := by
  rw [lastOperator?, List.reverse_append, List.find?_append, Option.map_or]
  rfl

theorem lastOperator?_singleton (target : Target) (source : String) :
    lastOperator? [target] source =
      if target.field = source then some target.operator else none := by
  by_cases hfield : target.field = source <;> simp [lastOperator?, hfield]

theorem lastOperator?_of_mem {targets : List Target} {target : Target} (hmem : target ∈ targets) :
    ∃ operator, lastOperator? targets target.field = some operator := by
  cases hfind : targets.reverse.find? (·.field = target.field) with
  | some found => exact ⟨found.operator, by rw [lastOperator?, hfind, Option.map_some]⟩
  | none =>
    have hnone := List.find?_eq_none.1 hfind target (List.mem_reverse.2 hmem)
    simp at hnone

/-- What was stored earlier does not matter where a target tells the operator. -/
theorem lastOperator?_append_of_mem {targets : List Target} {target : Target}
    (hmem : target ∈ targets) (others : List Target) (earlier : Option Operator) :
    lastOperator? (others ++ targets) target.field =
      (lastOperator? targets target.field).or earlier := by
  obtain ⟨operator, hlast⟩ := lastOperator?_of_mem hmem
  rw [lastOperator?_append, hlast, Option.some_or, Option.some_or]

/-! ## The operator of a dependency -/

namespace Dependencies

variable {dependencies : Dependencies} {edge : Dependency} {dependent source : String}

/-- The operator of the dependency of a field on another one. -/
def operator? (dependencies : Dependencies) (dependent source : String) : Option Operator :=
  (dependencies.edges.find? (·.pair = (dependent, source))).map (·.operator)

theorem find?_putEdge (edge : Dependency) (edges : List Dependency) (pair : String × String) :
    (putEdge edge edges).find? (·.pair = pair) =
      if edge.pair = pair then some edge else edges.find? (·.pair = pair) := by
  induction edges with
  | nil => by_cases hedge : edge.pair = pair <;> simp [putEdge, hedge]
  | cons head rest ih =>
    have hsame : (head.dependent = edge.dependent ∧ head.source = edge.source) ↔
        head.pair = edge.pair := by
      simp [Dependency.pair]
    simp only [putEdge, hsame]
    by_cases hhead : head.pair = edge.pair
    · by_cases hedge : edge.pair = pair <;> simp [hhead, hedge]
    · rw [if_neg hhead, List.find?_cons, List.find?_cons, ih]
      by_cases hpair : head.pair = pair
      · have hne : edge.pair ≠ pair := fun hedge => hhead (hpair.trans hedge.symm)
        simp [hpair, hne]
      · simp [hpair]

theorem operator?_register (dependencies : Dependencies) (edge : Dependency)
    (dependent source : String) :
    (dependencies.register edge).operator? dependent source =
      if edge.pair = (dependent, source) then some edge.operator
      else dependencies.operator? dependent source := by
  simp only [operator?, register, find?_putEdge]
  split <;> rfl

/-- When targets have been looked at in turn, the last one tells the operator. -/
theorem operator?_foldl (field : String) (targets : List Target) (source : String)
    (dependencies : Dependencies) :
    (targets.foldl (fun dependencies target =>
        dependencies.register ⟨field, target.field, target.operator⟩) dependencies).operator?
      field source = (lastOperator? targets source).or (dependencies.operator? field source) := by
  induction targets generalizing dependencies with
  | nil => rfl
  | cons target rest ih =>
    have hcons : lastOperator? (target :: rest) source =
        (lastOperator? rest source).or (lastOperator? [target] source) :=
      lastOperator?_append [target] rest source
    rw [List.foldl_cons, ih, operator?_register, hcons, lastOperator?_singleton, Option.or_assoc]
    by_cases hfield : target.field = source <;> simp [Dependency.pair, hfield]

theorem mem_edges_of_operator? {operator : Operator}
    (hoperator : dependencies.operator? dependent source = some operator) :
    ⟨dependent, source, operator⟩ ∈ dependencies.edges := by
  obtain ⟨edge, hfind, rfl⟩ := Option.map_eq_some_iff.1 hoperator
  have hpair : edge.pair = (dependent, source) := by
    simpa using List.find?_some hfind
  obtain ⟨rfl, rfl⟩ := Prod.mk.inj hpair
  exact List.mem_of_find?_eq_some hfind

theorem operator?_eq_none_iff :
    dependencies.operator? dependent source = none ↔ (dependent, source) ∉ dependencies.pairs := by
  rw [operator?, Option.map_eq_none_iff, List.find?_eq_none, pairs, List.mem_map]
  simp

theorem operator?_filter (dependencies : Dependencies) (field source : String) :
    operator? ⟨dependencies.edges.filter (·.dependent = field)⟩ field source =
      dependencies.operator? field source := by
  have hboth : ∀ edge : Dependency,
      (edge.dependent = field ∧ edge.pair = (field, source)) ↔ edge.pair = (field, source) :=
    fun _ => and_iff_right_of_imp fun hpair => congrArg Prod.fst hpair
  simp only [operator?, List.find?_filter, decide_eq_true_eq, hboth]

end Dependencies

/-- The rules compare the field with another one by one operator only, if at all. -/
def FieldState.Univocal (state : FieldState) (source : String) : Prop :=
  ∀ target ∈ state.targets, ∀ other ∈ state.targets,
    target.field = source → other.field = source → target.operator = other.operator

namespace Context

variable {c d : Context} {field source : String} {state other : FieldState}

/-- The operator of a dependency is one by which the rules compare. -/
theorem Wired.exists_target_of_operator? (hc : c.Wired) (hfind : c.fields.find? field = some state)
    {operator : Operator}
    (hoperator : c.dependencies.operator? field source = some operator) :
    ∃ target ∈ state.targets, target.field = source ∧ target.operator = operator := by
  obtain ⟨found, hfound, htarget⟩ := hc.gives _ (Dependencies.mem_edges_of_operator? hoperator)
  obtain rfl := Option.some.inj (hfound.symm.trans hfind)
  exact htarget

/-- A field that is set up alike depends on the same fields. -/
theorem Wired.sourcesOf_perm (hc : c.Wired) (hd : d.Wired)
    (hfindc : c.fields.find? field = some state) (hfindd : d.fields.find? field = some other)
    (htargets : other.targets = state.targets) :
    (d.dependencies.sourcesOf field).Perm (c.dependencies.sourcesOf field) := by
  have hpairs : ∀ dependencies : Dependencies,
      (dependencies.sourcesOf field).map (field, ·) = dependencies.pairs.filter (·.1 = field) := by
    intro dependencies
    unfold Dependencies.sourcesOf Dependencies.pairs
    rw [List.map_map, List.filter_map]
    refine List.map_congr_left fun edge hmem => ?_
    have hdependent : edge.dependent = field := by simpa using (List.mem_filter.1 hmem).2
    rw [Function.comp_apply, Dependency.pair, hdependent]
  have hnodup : ∀ {e : Context}, e.Wired → (e.dependencies.sourcesOf field).Nodup := fun he =>
    .of_map _ (hpairs _ ▸ he.nodup.filter _)
  have hmem : ∀ {e : Context} {source : String}, source ∈ e.dependencies.sourcesOf field ↔
      (field, source) ∈ e.dependencies.pairs := by
    intro e source
    simp only [Dependencies.sourcesOf, Dependencies.pairs, Dependency.pair, List.mem_map,
      List.mem_filter, decide_eq_true_eq, Prod.mk.injEq, and_assoc]
  rw [List.perm_ext_iff_of_nodup (hnodup hd) (hnodup hc)]
  intro source
  rw [hmem, hmem, hd.mem_pairs_iff, hc.mem_pairs_iff, hfindd, hfindc]
  simp [FieldState.ComparesWith, htargets]

/-- Two contexts agree on the operator if the rules compare by one operator only. -/
theorem Wired.operator?_eq_of_univocal (hc : c.Wired) (hd : d.Wired)
    (hfindc : c.fields.find? field = some state) (hfindd : d.fields.find? field = some other)
    (htargets : other.targets = state.targets) (hunivocal : state.Univocal source) :
    d.dependencies.operator? field source = c.dependencies.operator? field source := by
  have hnone : d.dependencies.operator? field source = none ↔
      c.dependencies.operator? field source = none := by
    rw [Dependencies.operator?_eq_none_iff, Dependencies.operator?_eq_none_iff, hd.mem_pairs_iff,
      hc.mem_pairs_iff, hfindd, hfindc]
    simp [FieldState.ComparesWith, htargets]
  cases hoperator : d.dependencies.operator? field source with
  | none => exact (hnone.1 hoperator).symm
  | some operator =>
    obtain ⟨operator', hoperator'⟩ :
        ∃ operator', c.dependencies.operator? field source = some operator' := by
      apply Option.ne_none_iff_exists'.1
      rw [ne_eq, ← hnone, hoperator]
      simp
    obtain ⟨target, htarget, hsource, rfl⟩ := hd.exists_target_of_operator? hfindd hoperator
    obtain ⟨target', htarget', hsource', rfl⟩ := hc.exists_target_of_operator? hfindc hoperator'
    rw [htargets] at htarget
    rw [hoperator', hunivocal target htarget target' htarget' hsource hsource']

/-- What an evaluation of the field, with the values that are stored, compares it with. -/
def compared (c : Context) (field : String) : List Target :=
  (c.fields.find? field).elim [] fun state => Engine.compared (c.evaluation state)

end Context

/-! ## Operators and lives -/

namespace Life

variable {life other : Life} {source : String}

/-- The operator of the dependency of the field on another one. -/
def operator? (life : Life) (source : String) : Option Operator :=
  Dependencies.operator? ⟨life.edges⟩ life.name source

/-- What an evaluation of the field compares it with. -/
def compared (life : Life) : List Target :=
  life.state.elim [] fun state => Engine.compared (life.evaluation state)

theorem operator?_depend (life : Life) (targets : List Target) (source : String) :
    (life.depend targets).operator? source =
      (lastOperator? targets source).or (life.operator? source) := by
  have hedges : (⟨(life.depend targets).edges⟩ : Dependencies) =
      targets.foldl (fun dependencies target =>
        dependencies.register ⟨life.name, target.field, target.operator⟩) ⟨life.edges⟩ :=
    (List.foldl_hom Dependencies.mk fun _ _ => rfl).symm
  exact (congrArg (Dependencies.operator? · life.name source) hedges).trans
    (Dependencies.operator?_foldl life.name targets source ⟨life.edges⟩)

/-- An evaluation leaves the operator of the last comparison that it gets to. -/
theorem operator?_evaluated (life : Life) (source : String) :
    life.evaluated.operator? source =
      (lastOperator? life.compared source).or (life.operator? source) := by
  unfold evaluated compared
  cases life.state with
  | none => rfl
  | some state => exact operator?_depend life _ source

/-- The callbacks do not touch the operators. -/
theorem operator?_settled (life : Life) (source : String) :
    life.settled.operator? source = life.operator? source := by
  refine List.foldlRecOn (motive := fun other : Life => other.operator? source =
    life.operator? source) _ _ rfl fun other hother inquiry _ => ?_
  rw [← hother]
  unfold asked concluded
  dsimp only
  split
  · cases other.state <;> rfl
  · rfl

end Life

namespace Context

variable {c : Context} {field : String}

theorem operator?_life (c : Context) (field source : String) :
    (c.life field).operator? source = c.dependencies.operator? field source :=
  Dependencies.operator?_filter c.dependencies field source

theorem compared_life (hnamed : ∀ state, c.fields.find? field = some state → state.name = field) :
    (c.life field).compared = c.compared field := by
  unfold compared Life.compared
  cases hfind : c.fields.find? field with
  | none =>
    rw [life, hfind]
    rfl
  | some state =>
    rw [state_life hfind]
    exact congrArg Engine.compared (evaluation_life (hnamed state hfind))

end Context

end FieldRules
