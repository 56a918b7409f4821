import FieldRules.Proofs.EnglishMessages
import FieldRules.Proofs.PlainChains
import FieldRules.Proofs.Reachability

/-!
# The dependencies are those of the rules

The dependencies of a context are stored apart from its fields.  They change
when a field gets its rules, when it loses them, and when it is evaluated.

* `Dependencies.pairs`: which field depends on which.
* `Engine.mem_compared`: an evaluation compares with no field that the rules do
  not name.
* `Context.Wired`: every field depends on the fields that its rules compare it
  with, by an operator that they name, and on no others, and no dependency is stored
  twice.
* `Context.Attempt`: what an operation on one field comes down to.
* `Wired.next`: whatever happens keeps this, so it is true of all reachable
  contexts.
-/

namespace FieldRules

/-! ## Dependencies -/

/-- The fields of a dependency: who depends, and on whom. -/
def Dependency.pair (edge : Dependency) : String × String :=
  (edge.dependent, edge.source)

namespace Dependencies

/-- Which field depends on which. -/
def pairs (dependencies : Dependencies) : List (String × String) :=
  dependencies.edges.map (·.pair)

theorem mem_dependentsOf {dependencies : Dependencies} {dependent source : String} :
    dependent ∈ dependencies.dependentsOf source ↔ (dependent, source) ∈ dependencies.pairs := by
  simp only [dependentsOf, pairs, Dependency.pair, List.mem_map, List.mem_filter,
    decide_eq_true_eq, Prod.mk.injEq, and_assoc]
  exact exists_congr fun edge => and_congr_right fun _ => and_comm

/-- A dependency that is there already keeps its place. -/
theorem map_pair_putEdge (edge : Dependency) (edges : List Dependency) :
    (putEdge edge edges).map (·.pair) =
      if edge.pair ∈ edges.map (·.pair) then edges.map (·.pair)
      else edges.map (·.pair) ++ [edge.pair] := by
  induction edges with
  | nil => simp [putEdge]
  | cons head rest ih =>
    by_cases hhead : head.dependent = edge.dependent ∧ head.source = edge.source
    · simp [putEdge, Dependency.pair, hhead]
    · have hne : edge.pair ≠ head.pair := by
        rw [ne_eq, Dependency.pair, Dependency.pair, Prod.mk.injEq]
        exact fun h => hhead ⟨h.1.symm, h.2.symm⟩
      simp only [putEdge, hhead, if_false, List.map_cons, ih, List.mem_cons, hne, false_or]
      split <;> simp

theorem mem_pairs_register {dependencies : Dependencies} {edge : Dependency}
    {pair : String × String} :
    pair ∈ (dependencies.register edge).pairs ↔ pair ∈ dependencies.pairs ∨ pair = edge.pair := by
  simp only [register, pairs, map_pair_putEdge]
  split
  · rename_i hmem
    exact ⟨.inl, fun h => h.elim id fun heq => heq ▸ hmem⟩
  · rw [List.mem_append, List.mem_singleton]

theorem nodup_pairs_register {dependencies : Dependencies} (hnodup : dependencies.pairs.Nodup)
    (edge : Dependency) : (dependencies.register edge).pairs.Nodup := by
  simp only [register, pairs, map_pair_putEdge]
  split
  · exact hnodup
  · rename_i hmem
    rw [← List.concat_eq_append]
    exact hnodup.concat hmem

/-- Whatever is there after a dependency has been put was there before, or is this one. -/
theorem mem_edges_register {dependencies : Dependencies} {edge other : Dependency}
    (hmem : other ∈ (dependencies.register edge).edges) :
    other ∈ dependencies.edges ∨ other = edge := by
  change other ∈ putEdge edge dependencies.edges at hmem
  generalize dependencies.edges = edges at hmem ⊢
  induction edges with
  | nil => exact .inr (List.mem_singleton.1 hmem)
  | cons head rest ih =>
    rw [putEdge] at hmem
    split at hmem
    · exact (List.mem_cons.1 hmem).symm.imp_left (List.mem_cons_of_mem head)
    · rcases List.mem_cons.1 hmem with rfl | hmem
      · exact .inl List.mem_cons_self
      · exact (ih hmem).imp_left (List.mem_cons_of_mem head)

theorem pairs_removeDependent (dependencies : Dependencies) (dependent : String) :
    (dependencies.removeDependent dependent).1.pairs =
      dependencies.pairs.filter (·.1 ≠ dependent) := by
  simp only [removeDependent, pairs, List.filter_map]
  rfl

end Dependencies

/-! ## The fields that rules compare with -/

/-- The rules of the field compare it with another one. -/
def FieldState.ComparesWith (state : FieldState) (source : String) : Prop :=
  ∃ target ∈ state.targets, target.field = source

instance (state : FieldState) (source : String) : Decidable (state.ComparesWith source) :=
  inferInstanceAs (Decidable (∃ target ∈ state.targets, target.field = source))

/-- The rules of the field give it a dependency. -/
def FieldState.Gives (state : FieldState) (edge : Dependency) : Prop :=
  ∃ target ∈ state.targets, target.field = edge.source ∧ target.operator = edge.operator

theorem FieldState.targets_of_setup {state other : FieldState}
    (hsetup : other.setup = state.setup) : other.targets = state.targets :=
  congr_setup (f := targets) (fun _ => rfl) hsetup

namespace Engine

variable {engine : Engine} {state : FieldState} {value : Option String}
  {others : String → Option String}

theorem mem_dependencies_run {validators : List Validator} {target : Target} :
    ∀ {index : Nat} {e e' : Evaluation},
      engine.run value others index validators e = .ok e' → target ∈ e'.dependencies →
        target ∈ e.dependencies ∨ ∃ v ∈ validators, v.target? = some target := by
  induction validators with
  | nil =>
    intro index e e' hrun hmem
    cases hrun
    exact .inl hmem
  | cons v rest ih =>
    -- whatever the validator adds is what it compares with
    have hrest : ∀ {index : Nat} {e₁ e' : Evaluation} {e : Evaluation},
        engine.run value others index rest e₁ = .ok e' →
        e₁.dependencies = e.dependencies ∨ e₁.dependencies = e.dependencies ++ v.target?.toList →
        target ∈ e'.dependencies →
        target ∈ e.dependencies ∨ ∃ w ∈ v :: rest, w.target? = some target := by
      intro index e₁ e' e hrun hadded hmem
      rcases ih hrun hmem with hbefore | ⟨w, hw, htarget⟩
      · rcases hadded with hsame | hadded
        · exact .inl (hsame ▸ hbefore)
        · rw [hadded, List.mem_append, Option.mem_toList] at hbefore
          exact hbefore.imp_right fun htarget => ⟨v, List.mem_cons_self, htarget⟩
      · exact .inr ⟨w, List.mem_cons_of_mem v hw, htarget⟩
    intro index e e' hrun hmem
    rw [run] at hrun
    split at hrun
    · exact hrest hrun (.inl rfl) hmem
    · dsimp only at hrun
      split at hrun
      · split at hrun
        · cases hrun
          rw [show (e.addDependency v.target?).addPass.dependencies =
            e.dependencies ++ v.target?.toList from rfl, List.mem_append, Option.mem_toList] at hmem
          exact hmem.imp_right fun htarget => ⟨v, List.mem_cons_self, htarget⟩
        · exact hrest hrun (.inr rfl) hmem
      · obtain ⟨message, -, hrun⟩ := bind_eq_ok hrun
        exact hrest hrun (.inr rfl) hmem

/-- An evaluation compares with fields that the rules name. -/
theorem mem_compared {target : Target}
    (hmem : target ∈ compared (engine.evaluate state value others)) : target ∈ state.targets := by
  cases heval : engine.evaluate state value others with
  | error e =>
    rw [heval] at hmem
    exact absurd hmem List.not_mem_nil
  | ok e =>
    rw [heval] at hmem
    rcases evaluate_eq_ok_iff.1 heval with ⟨-, rfl⟩ | ⟨-, e', hrun, rfl⟩
    · exact absurd hmem List.not_mem_nil
    · have hdependencies : (engine.conclude e').dependencies = e'.dependencies := by
        unfold conclude
        split <;> rfl
      rw [compared, hdependencies] at hmem
      rcases mem_dependencies_run hrun hmem with hbefore | ⟨v, hv, htarget⟩
      · exact absurd hbefore List.not_mem_nil
      · exact List.mem_filterMap.2 ⟨v, hv, htarget⟩

end Engine

/-! ## Contexts whose dependencies are those of the rules -/

namespace Context

variable {c d : Context} {field source : String} {state old : FieldState}

/-- Every field is stored under its name and depends on the fields that its rules
compare it with, by an operator that they name.  There are no other dependencies, and
none is stored twice. -/
structure Wired (c : Context) : Prop where
  named : ∀ field state, c.fields.find? field = some state → state.name = field ∧ field ≠ ""
  nodup : c.dependencies.pairs.Nodup
  mem_pairs_iff : ∀ field source, (field, source) ∈ c.dependencies.pairs ↔
    ∃ state, c.fields.find? field = some state ∧ state.ComparesWith source
  gives : ∀ edge ∈ c.dependencies.edges,
    ∃ state, c.fields.find? edge.dependent = some state ∧ state.Gives edge

theorem mem_pairs_depend (c : Context) (field : String) (targets : List Target)
    (pair : String × String) :
    pair ∈ (c.depend field targets).dependencies.pairs ↔
      pair ∈ c.dependencies.pairs ∨ ∃ target ∈ targets, pair = (field, target.field) := by
  unfold depend
  dsimp only
  generalize c.dependencies = dependencies
  induction targets generalizing dependencies with
  | nil => simp
  | cons target rest ih =>
    rw [List.foldl_cons, ih, Dependencies.mem_pairs_register, or_assoc]
    simp [Dependency.pair]

theorem mem_edges_depend (c : Context) (field : String) (targets : List Target) {edge : Dependency}
    (hmem : edge ∈ (c.depend field targets).dependencies.edges) :
    edge ∈ c.dependencies.edges ∨
      ∃ target ∈ targets, edge = ⟨field, target.field, target.operator⟩ := by
  unfold depend at hmem
  dsimp only at hmem
  generalize c.dependencies = dependencies at hmem ⊢
  induction targets generalizing dependencies with
  | nil => exact .inl hmem
  | cons target rest ih =>
    rw [List.foldl_cons] at hmem
    rcases ih _ hmem with hbefore | ⟨other, hother, hedge⟩
    · refine (Dependencies.mem_edges_register hbefore).imp_right fun hedge => ?_
      exact ⟨target, List.mem_cons_self, hedge⟩
    · exact .inr ⟨other, List.mem_cons_of_mem target hother, hedge⟩

theorem nodup_pairs_depend (hnodup : c.dependencies.pairs.Nodup) (field : String)
    (targets : List Target) : (c.depend field targets).dependencies.pairs.Nodup :=
  List.foldlRecOn (motive := fun dependencies : Dependencies => dependencies.pairs.Nodup) targets _
    hnodup fun _ hnodup _ _ => Dependencies.nodup_pairs_register hnodup _

namespace Wired

theorem start (translator : Message.Translator) (config : EngineConfig) (callbacks : Callbacks) :
    (start translator config callbacks).Wired where
  named field state hfind := by cases hfind
  nodup := List.nodup_nil
  mem_pairs_iff field source := by
    refine iff_of_false List.not_mem_nil ?_
    rintro ⟨state, hfind, -⟩
    cases hfind
  gives edge hmem := absurd hmem List.not_mem_nil

/-- Nothing else in a context matters. -/
theorem congr (hwired : c.Wired) (hfields : d.fields = c.fields)
    (hdependencies : d.dependencies = c.dependencies) : d.Wired where
  named := hfields ▸ hwired.named
  nodup := hdependencies ▸ hwired.nodup
  mem_pairs_iff := hfields ▸ hdependencies ▸ hwired.mem_pairs_iff
  gives := hfields ▸ hdependencies ▸ hwired.gives

theorem retain (hwired : c.Wired) (result : Except ConfigError Unit) : (c.retain result).Wired := by
  cases result <;> exact hwired.congr rfl rfl

/-- A field may change as far as the fields that its rules name do not. -/
theorem put (hwired : c.Wired) (state : FieldState) (hfind : c.fields.find? field = some old)
    (hname : state.name = field) (htargets : state.targets = old.targets) :
    (c.put state).Wired where
  named other found hother := by
    by_cases hne : field = other
    · subst hne
      rw [Context.put, hname, Assoc.find?_put_self] at hother
      cases hother
      exact ⟨hname, (hwired.named field old hfind).2⟩
    · rw [Context.put, hname, Assoc.find?_put_of_ne _ _ hne] at hother
      exact hwired.named other found hother
  nodup := hwired.nodup
  mem_pairs_iff other source := by
    refine (hwired.mem_pairs_iff other source).trans ?_
    by_cases hne : field = other
    · subst hne
      simp only [Context.put, hname, Assoc.find?_put_self, hfind, Option.some.injEq,
        exists_eq_left', FieldState.ComparesWith, htargets]
    · simp only [Context.put, hname, Assoc.find?_put_of_ne _ _ hne]
  gives edge hmem := by
    obtain ⟨found, hfound, hgives⟩ := hwired.gives edge hmem
    by_cases hne : field = edge.dependent
    · subst hne
      cases hfind.symm.trans hfound
      refine ⟨state, ?_, ?_⟩
      · rw [Context.put, hname, Assoc.find?_put_self]
      · rwa [FieldState.Gives, htargets]
    · exact ⟨found, by rwa [Context.put, hname, Assoc.find?_put_of_ne _ _ hne], hgives⟩

/-- Dependencies that the rules of a field already give may be found again. -/
theorem depend (hwired : c.Wired) (hfind : c.fields.find? field = some state)
    {targets : List Target} (htargets : ∀ target ∈ targets, target ∈ state.targets) :
    (c.depend field targets).Wired where
  named := hwired.named
  nodup := nodup_pairs_depend hwired.nodup field targets
  mem_pairs_iff other source := by
    rw [mem_pairs_depend, hwired.mem_pairs_iff]
    refine or_iff_left_of_imp ?_
    rintro ⟨target, hmem, heq⟩
    cases heq
    exact ⟨state, hfind, target, htargets target hmem, rfl⟩
  gives edge hmem := by
    rcases mem_edges_depend c field targets hmem with hbefore | ⟨target, htarget, rfl⟩
    · exact hwired.gives edge hbefore
    · exact ⟨state, hfind, target, htargets target htarget, rfl, rfl⟩

theorem evaluate (hwired : c.Wired) (field : String) : (c.evaluate field).1.Wired := by
  cases hfind : c.fields.find? field with
  | none =>
    rw [evaluate_of_unregistered c hfind]
    exact hwired.congr rfl rfl
  | some state =>
    obtain ⟨hname, hfield⟩ := hwired.named field state hfind
    rw [evaluate_eq c hfind hname hfield]
    have hbegun : (c.begun field).Wired := hwired.congr rfl rfl
    have hdepend : ((c.begun field).depend field (Engine.compared (c.evaluation state))).Wired :=
      hbegun.depend hfind fun target hmem => Engine.mem_compared hmem
    have hsetup := state.setup_evaluated (c.values.find? field) (c.generations.issued + 1)
      (c.evaluation state)
    exact (hdepend.put _ hfind ((FieldState.name_of_setup hsetup).trans hname)
      (FieldState.targets_of_setup hsetup)).congr rfl rfl

theorem evaluateUnseen (hwired : c.Wired) (field : String) : (c.evaluateUnseen field).Wired :=
  (hwired.evaluate field).retain _

theorem evaluateAll (hwired : c.Wired) (fields : List String) : (c.evaluateAll fields).1.Wired :=
  evaluateAll_keeps (fun _ field hwired => hwired.evaluate field) fields hwired

/-! ### Fields that come and go -/

theorem remove (hwired : c.Wired) (field : String) : (c.remove field).Wired := by
  cases hfind : c.fields.find? field with
  | none =>
    rw [remove_of_unregistered hfind]
    exact hwired.congr rfl rfl
  | some state =>
    rw [remove_of_registered hfind]
    refine ⟨fun other found hother => ?_, ?_, fun other source => ?_, fun edge hmem => ?_⟩
    · by_cases hne : field = other
      · subst hne
        have hnone := Assoc.find?_drop_self c.fields field
        cases hnone.symm.trans hother
      · refine hwired.named other found ?_
        rw [← Assoc.find?_drop_of_ne c.fields hne]
        exact hother
    · change (c.dependencies.removeDependent field).1.pairs.Nodup
      rw [Dependencies.pairs_removeDependent]
      exact hwired.nodup.filter _
    · change (other, source) ∈ (c.dependencies.removeDependent field).1.pairs ↔
        ∃ state, (c.fields.drop field).find? other = some state ∧ state.ComparesWith source
      rw [Dependencies.pairs_removeDependent, List.mem_filter, hwired.mem_pairs_iff]
      by_cases hne : field = other
      · subst hne
        simp
      · simp [Assoc.find?_drop_of_ne _ hne, Ne.symm hne]
    · obtain ⟨hbefore, hother⟩ := List.mem_filter.1 hmem
      obtain ⟨found, hfound, hgives⟩ := hwired.gives edge hbefore
      have hne : field ≠ edge.dependent := Ne.symm (by simpa using hother)
      exact ⟨found, (Assoc.find?_drop_of_ne c.fields hne).trans hfound, hgives⟩

/-- A field whose dependencies are there already may be added. -/
theorem enroll (hwired : c.Wired) (registration : Registration) (compiled : Rule.Compiled)
    (hname : registration.name ≠ "") (hfind : c.fields.find? registration.name = none) :
    (c.enroll registration compiled).Wired := by
  have hfields : (c.enroll registration compiled).fields =
      c.fields.put registration.name (registration.state compiled c.config) := by
    unfold Context.enroll
    cases registration.form <;> cases registration.value <;> rfl
  have hdependencies : (c.enroll registration compiled).dependencies =
      (c.depend registration.name (registration.state compiled c.config).targets).dependencies := by
    unfold Context.enroll
    cases registration.form <;> cases registration.value <;> rfl
  refine ⟨fun other found hother => ?_, ?_, fun other source => ?_, fun edge hmem => ?_⟩
  · rw [hfields] at hother
    by_cases hne : registration.name = other
    · subst hne
      rw [Assoc.find?_put_self] at hother
      cases hother
      exact ⟨rfl, hname⟩
    · rw [Assoc.find?_put_of_ne _ _ hne] at hother
      exact hwired.named other found hother
  · rw [hdependencies]
    exact nodup_pairs_depend hwired.nodup _ _
  · rw [hdependencies, hfields, mem_pairs_depend, hwired.mem_pairs_iff]
    by_cases hne : registration.name = other
    · subst hne
      simp [hfind, FieldState.ComparesWith, eq_comm]
    · simp [Assoc.find?_put_of_ne _ _ hne, Ne.symm hne]
  · rw [hdependencies] at hmem
    rw [hfields]
    rcases mem_edges_depend c registration.name _ hmem with hbefore | ⟨target, htarget, rfl⟩
    · obtain ⟨found, hfound, hgives⟩ := hwired.gives edge hbefore
      have hne : registration.name ≠ edge.dependent := by
        rintro heq
        cases hfind.symm.trans (heq ▸ hfound)
      exact ⟨found, (Assoc.find?_put_of_ne c.fields _ hne).trans hfound, hgives⟩
    · exact ⟨_, Assoc.find?_put_self .., target, htarget, rfl, rfl⟩

/-- A field that gets other rules gets other dependencies along with them. -/
theorem redepend (hwired : c.Wired) (state other : FieldState)
    (hfind : c.fields.find? field = some old) (hname : state.name = field)
    (hother : other.name = field) (htargets : other.targets = state.targets) :
    ((c.redepend state).put other).Wired := by
  subst hname
  have hfield := (hwired.named state.name old hfind).2
  refine ⟨fun name found hfound => ?_, ?_, fun name source => ?_, fun edge hmem => ?_⟩
  · change (c.fields.put other.name other).find? name = some found at hfound
    by_cases hne : state.name = name
    · subst hne
      rw [hother, Assoc.find?_put_self] at hfound
      cases hfound
      exact ⟨hother, hfield⟩
    · rw [hother, Assoc.find?_put_of_ne _ _ hne] at hfound
      exact hwired.named name found hfound
  · refine nodup_pairs_depend ?_ _ _
    rw [Dependencies.pairs_removeDependent]
    exact hwired.nodup.filter _
  · refine (mem_pairs_depend _ _ _ _).trans ?_
    rw [Dependencies.pairs_removeDependent, List.mem_filter, hwired.mem_pairs_iff]
    change _ ↔ ∃ found, (c.fields.put other.name other).find? name = some found ∧ _
    by_cases hne : state.name = name
    · subst hne
      simp [hother, FieldState.ComparesWith, htargets, eq_comm]
    · simp [hother, Assoc.find?_put_of_ne _ _ hne, Ne.symm hne]
  · change ∃ found, (c.fields.put other.name other).find? edge.dependent = some found ∧ _
    rcases mem_edges_depend _ state.name state.targets hmem with hbefore | ⟨target, htarget, rfl⟩
    · obtain ⟨hkept, hdependent⟩ := List.mem_filter.1 hbefore
      obtain ⟨found, hfound, hgives⟩ := hwired.gives edge hkept
      have hne : other.name ≠ edge.dependent := by
        rw [hother]
        exact Ne.symm (by simpa using hdependent)
      exact ⟨found, (Assoc.find?_put_of_ne c.fields _ hne).trans hfound, hgives⟩
    · refine ⟨other, ?_, target, htargets ▸ htarget, rfl, rfl⟩
      rw [hother]
      exact Assoc.find?_put_self ..

theorem schedule (hwired : c.Wired) (field : String) (delay : Nat) :
    (c.schedule field delay).Wired := by
  by_cases hdelay : delay = 0
  · subst hdelay
    have hcancel : (c.cancel field).Wired := hwired.congr rfl rfl
    rw [schedule_zero]
    exact hcancel.evaluateUnseen field
  · rw [schedule_succ _ _ hdelay]
    exact hwired.congr rfl rfl

end Wired

/-! ### Operations on one field -/

/-- What an operation on a field comes down to: it is refused, it is done, or it
ends with an evaluation of the field. -/
inductive Attempt (c : Context) (field : String) : Context × Except ConfigError Unit → Prop where
  | refused (e : ConfigError) : Attempt c field (c, .error e)
  | done {after : Context} (hwired : after.Wired) : Attempt c field (after, .ok ())
  | evaluated {ready : Context} (hwired : ready.Wired) : Attempt c field (ready.evaluate field)

theorem Attempt.wired {attempted : Context × Except ConfigError Unit}
    (hattempt : c.Attempt field attempted) (hwired : c.Wired) : attempted.1.Wired := by
  cases hattempt with
  | refused e => exact hwired
  | done hdone => exact hdone
  | evaluated hready => exact hready.evaluate field

namespace Wired

theorem attempt_register (hwired : c.Wired) (registration : Registration) :
    c.Attempt registration.name (c.register registration) := by
  unfold Context.register
  split
  · exact .refused _
  · rename_i hname
    have hname : registration.name ≠ "" := fun h => hname (by rw [h]; rfl)
    cases c.compile registration.rules with
    | error e => exact .refused e
    | ok compiled =>
      dsimp only
      split
      · exact .evaluated ((hwired.remove _).enroll registration compiled hname
          (find?_remove_self c registration.name))
      · rename_i hregistered
        have hfind : c.fields.find? registration.name = none := by
          simpa [isRegistered, Assoc.has] using hregistered
        exact .evaluated (hwired.enroll registration compiled hname hfind)

theorem attempt_setRules (hwired : c.Wired) (field rules : String) :
    c.Attempt field (c.setRules field rules) := by
  unfold Context.setRules
  cases c.compile rules with
  | error e => exact .refused e
  | ok compiled =>
    cases hfind : c.fields.find? field with
    | none => exact .refused _
    | some state =>
      have hname := (hwired.named field state hfind).1
      have hnote : (c.note (.ruled field)).Wired := hwired.congr rfl rfl
      dsimp only
      split
      · exact .done ((hnote.redepend (state.withRules rules compiled)
          (state.withRules rules compiled).suspended hfind hname hname rfl).congr rfl rfl)
      · exact .evaluated (hnote.redepend (state.withRules rules compiled)
          (state.ruled rules compiled) hfind hname hname rfl)

theorem attempt_change (hwired : c.Wired) (field : String) (value : Option String) :
    c.Attempt field (c.change field value) := by
  unfold Context.change
  cases hfind : c.fields.find? field with
  | none => exact .refused _
  | some state =>
    obtain ⟨rfl, -⟩ := hwired.named field state hfind
    have hchange : (c.withChange state value).Wired :=
      (hwired.put state.changed hfind rfl rfl).congr rfl rfl
    refine .done (List.foldlRecOn _ _ ?_ fun d hd dependent _ => hd.schedule dependent 0)
    split
    · exact hchange
    · exact hchange.schedule _ _

theorem attempt_setDisabled (hwired : c.Wired) (field : String) (disabled : Bool) :
    c.Attempt field (c.setDisabled field disabled) := by
  unfold Context.setDisabled
  cases hfind : c.fields.find? field with
  | none => exact .refused _
  | some state =>
    have hname := (hwired.named field state hfind).1
    cases disabled with
    | true =>
      exact .done ((hwired.put ({ state with disabled := true } : FieldState).suspended hfind hname
        rfl).congr rfl rfl)
    | false => exact .evaluated (hwired.put state.enabled hfind hname rfl)

/-- The report is never missing, for the field is still there. -/
theorem attempt_validate (hwired : c.Wired) (field : String) :
    c.Attempt field ((c.validate field).1, (c.validate field).2.map fun _ => ()) := by
  unfold Context.validate
  cases hfind : c.fields.find? field with
  | none => exact .refused _
  | some state =>
    obtain ⟨hname, hfield⟩ := hwired.named field state hfind
    have hready : ((c.put { state with touched := true }).cancel field).Wired :=
      (hwired.put { state with touched := true } hfind hname rfl).congr rfl rfl
    have htouched : ((c.put { state with touched := true }).cancel field).fields.find? field =
        some { state with touched := true } := by
      subst hname
      exact Assoc.find?_put_self ..
    have hview := congrArg View.state (view_evaluate_self _ htouched hname hfield)
    have hevaluated : c.Attempt field
        (((c.put { state with touched := true }).cancel field).evaluate field) :=
      .evaluated hready
    dsimp only
    generalize ((c.put { state with touched := true }).cancel field).evaluate field = evaluated
      at hevaluated hview
    obtain ⟨d, result⟩ := evaluated
    cases result with
    | error e => exact hevaluated
    | ok =>
      have hreport : (d.report? field).isSome = true := by
        rw [report?, Option.isSome_map]
        exact Option.isSome_iff_exists.2 ⟨_, hview⟩
      obtain ⟨report, hreport⟩ := Option.isSome_iff_exists.1 hreport
      dsimp only
      rw [hreport]
      exact hevaluated

/-! ### Operations on forms -/

theorem reveal (hwired : c.Wired) (field : String) : (c.reveal field).Wired := by
  unfold Context.reveal
  cases hfind : c.fields.find? field with
  | none => exact hwired
  | some state =>
    have hsetup := state.setup_revealed
    dsimp only
    split
    · exact hwired
    · exact hwired.put _ hfind
        ((FieldState.name_of_setup hsetup).trans (hwired.named field state hfind).1)
        (FieldState.targets_of_setup hsetup)

theorem checkForm (hwired : c.Wired) (form : String) : (c.checkForm form).1.Wired := by
  have hflush : (c.flush (c.forms.fields form)).1.Wired := by
    refine flush_keeps (motive := Wired) (fun d field hd => ?_) _ hwired
    have hcancel : (d.cancel field).Wired := hd.congr rfl rfl
    exact hcancel.evaluate field
  unfold Context.checkForm
  dsimp only
  generalize c.flush (c.forms.fields form) = flushed at hflush
  obtain ⟨d, result⟩ := flushed
  cases result with
  | error e => exact hflush
  | ok => exact List.foldlRecOn _ _ hflush fun d hd field _ => hd.reveal field

theorem renew (hwired : c.Wired) (emptied : Bool) (field : String) :
    (renew emptied c field).Wired := by
  have hvalues : (if emptied then { c with values := c.values.set field none } else c).Wired := by
    split
    · exact hwired.congr rfl rfl
    · exact hwired
  unfold Context.renew
  dsimp only
  generalize (if emptied then { c with values := c.values.set field none } else c) = d at hvalues
  cases hfind : d.fields.find? field with
  | none => exact hvalues
  | some state =>
    exact (hvalues.put (state.renewed d.config.preValidate) hfind
      (hvalues.named field state hfind).1 rfl).congr rfl rfl

theorem renewedForm (hwired : c.Wired) (form : String) (emptied : Bool) :
    (c.renewedForm form emptied).Wired := by
  refine List.foldlRecOn _ _ ?_ fun d hd field _ => hd.renew _ field
  have houtdate : ((c.forms.fields form).foldl outdate c).Wired :=
    List.foldlRecOn _ _ hwired fun d hd field _ => hd.congr rfl rfl
  exact houtdate.congr rfl rfl

theorem resetForm (hwired : c.Wired) (form : String) (options : ResetOptions) :
    (c.resetForm form options).1.Wired := by
  unfold Context.resetForm
  dsimp only
  split
  · have hremove : ((c.forms.fields form).foldl Context.remove c).Wired :=
      List.foldlRecOn _ _ hwired fun d hd field _ => hd.remove field
    exact hremove.congr rfl rfl
  · exact (hwired.renewedForm form options.emptyValues).evaluateAll _

theorem perform (hwired : c.Wired) (operation : Operation)
    (hnow : ∀ ms, operation ≠ .advance ms) : (c.perform operation).1.Wired := by
  cases operation with
  | register registration => exact (hwired.attempt_register registration).wired hwired
  | unregister field => exact hwired.remove field
  | setRules field rules => exact (hwired.attempt_setRules field rules).wired hwired
  | setValue field value => exact (hwired.attempt_change field (some value)).wired hwired
  | clearValue field => exact (hwired.attempt_change field none).wired hwired
  | setDisabled field disabled => exact (hwired.attempt_setDisabled field disabled).wired hwired
  | validate field => exact (hwired.attempt_validate field).wired hwired
  | checkForm form => exact hwired.checkForm form
  | resetForm form options => exact hwired.resetForm form options
  | advance ms => exact absurd rfl (hnow ms)
  | setCallback name callback => exact hwired.congr rfl rfl
  | removeCallback name => exact hwired.congr rfl rfl
  | takeErrors => exact hwired.congr rfl rfl

/-! ### All that happens -/

theorem conclude (hwired : c.Wired) (inquiry : Inquiry) (results : Results) :
    (c.conclude inquiry results).Wired := by
  by_cases hcurrent : c.generations.current? inquiry.field = some inquiry.generation
  · cases hfind : c.fields.find? inquiry.field with
    | none =>
      unfold Context.conclude
      rw [hfind]
      split <;> exact hwired
    | some state =>
      obtain ⟨hname, hfield⟩ := hwired.named _ state hfind
      rw [conclude_eq hfind (by rwa [hname]) hcurrent]
      have hsetup := state.setup_concluded c.engine inquiry.evaluation
        (c.engine.collect inquiry.field results)
      refine retain ?_ _
      exact (hwired.put _ hfind ((FieldState.name_of_setup hsetup).trans hname)
        (FieldState.targets_of_setup hsetup)).congr rfl rfl
  · rwa [conclude_of_stale hcurrent]

theorem fire (hwired : c.Wired) (event : Event) : (c.fire event).Wired := by
  cases event with
  | evaluate field => exact hwired.evaluateUnseen field
  | reply inquiry results => exact hwired.conclude inquiry results

theorem next (hwired : c.Wired) (hnext : c.Next d) : d.Wired := by
  cases hnext with
  | operation operation hnow => exact hwired.perform operation hnow
  | ask hready replies hreplies => exact hwired.congr rfl rfl
  | @fire before after timer htimers =>
    have htake : (c.atInstant c.clock.now (before ++ after)).Wired := hwired.congr rfl rfl
    exact htake.fire timer.event
  | wait now => exact hwired.congr rfl rfl

end Wired

/-- In all reachable contexts the dependencies are those of the rules. -/
theorem Reachable.wired (hreach : c.Reachable) : c.Wired := by
  obtain ⟨translator, config, callbacks, hleads⟩ := hreach
  induction hleads with
  | refl => exact .start translator config callbacks
  | tail _ hnext ih => exact ih.next hnext

end Context

end FieldRules
