import FieldRules.Proofs.Arrivals

/-!
# Which results arrive, and which of them are applied

The result of a submission arrives when its delay has passed, and is applied if the
generation that it belongs to is still the latest one of its field.  This is said of
whole runs of actions, in which each result is the number of the action that submits
the work for it.

* `log`: the results that have arrived; `arrived_iff` says which ones.
* `arrives_spec`: what is known of a result that arrives in an action.
* `pairwise_log`: what follows for two results that have arrived one after the other.
* `lawful_arrivals`: the law of runs.
-/

namespace FieldRules.Submissions

variable {actions : List Action} {action : Action} {field : String}
  {number task generation delay : Nat} {outcome : Outcome} {arrival : Arrival Nat}

/-! ## Runs -/

/-- The submissions after a run are what the actions tell. -/
theorem reflects_run (actions : List Action) :
    Tracks actions (run actions).1.generations ∧ Reflects actions (run actions).1 := by
  induction actions using List.reverseRecOn with
  | nil => exact ⟨.start, .start⟩
  | append_singleton actions action ih =>
    obtain ⟨htracks, hreflects, -⟩ := perform_spec ih.1 ih.2 action
    rw [run, Trace.run_append_singleton]
    exact ⟨htracks, hreflects⟩

/-- The results that have arrived, in turn. -/
def log (actions : List Action) : List (Arrival Nat) :=
  (run actions).2.flatMap (·.arrivals)

theorem log_append :
    log (actions ++ [action]) =
      log actions ++ ((run actions).1.perform actions.length action).2.arrivals := by
  rw [log, run, Trace.run_append_singleton, List.flatMap_append, List.flatMap_singleton]
  rfl

/-- The delay of a submission has passed before an action, or it passes in it. -/
theorem passed_append_iff :
    Submits (actions ++ [action]) task field generation delay ∧
        instantAt (actions ++ [action]) task + delay ≤ elapsed (actions ++ [action]) ↔
      Submits actions task field generation delay ∧
          instantAt actions task + delay ≤ elapsed actions ∨
        Submits (actions ++ [action]) task field generation delay ∧
          (delay = 0 ∧ task = actions.length ∨ delay ≠ 0 ∧
            elapsed actions < instantAt (actions ++ [action]) task + delay ∧
            instantAt (actions ++ [action]) task + delay ≤ elapsed (actions ++ [action])) := by
  have hlater : elapsed actions ≤ elapsed (actions ++ [action]) := by
    rw [elapsed_append]
    exact Nat.le_add_right _ _
  have hsame : Submits actions task field generation delay →
      instantAt (actions ++ [action]) task = instantAt actions task := fun hold =>
    Trace.instantAt_append _ (Nat.le_of_lt hold.lt_length) _
  have hbefore : instantAt actions task ≤ elapsed actions := Trace.instantAt_le_elapsed _ _ _
  have hby : instantAt (actions ++ [action]) task ≤ elapsed (actions ++ [action]) :=
    Trace.instantAt_le_elapsed _ _ _
  constructor
  · rintro ⟨hsubmits, hpassed⟩
    rcases submits_append.1 hsubmits with hold | ⟨rfl, -⟩
    · rw [hsame hold] at hpassed ⊢
      by_cases hearly : instantAt actions task + delay ≤ elapsed actions
      · exact .inl ⟨hold, hearly⟩
      · exact .inr ⟨hsubmits, .inr ⟨by omega, by omega, hpassed⟩⟩
    · have hnow : instantAt (actions ++ [action]) actions.length = elapsed actions :=
        Trace.instantAt_length _ _ _
      rw [hnow] at hpassed ⊢
      by_cases hdelay : delay = 0
      · exact .inr ⟨hsubmits, .inl ⟨hdelay, rfl⟩⟩
      · exact .inr ⟨hsubmits, .inr ⟨hdelay, by omega, hpassed⟩⟩
  · rintro (⟨hold, hearly⟩ | ⟨hsubmits, ⟨rfl, -⟩ | ⟨-, -, hpassed⟩⟩)
    · exact ⟨submits_append.2 (.inl hold), by rw [hsame hold]; omega⟩
    · exact ⟨hsubmits, hby⟩
    · exact ⟨hsubmits, hpassed⟩

/-- The results that arrive in an action are those of submissions whose delays pass
in it. -/
theorem arrivesIn_iff :
    (∃ arrival, ArrivesIn actions action arrival ∧ arrival.submission.result = task) ↔
      ∃ field generation delay, Submits (actions ++ [action]) task field generation delay ∧
        (delay = 0 ∧ task = actions.length ∨ delay ≠ 0 ∧
          elapsed actions < instantAt (actions ++ [action]) task + delay ∧
          instantAt (actions ++ [action]) task + delay ≤ elapsed (actions ++ [action])) := by
  constructor
  · rintro ⟨arrival, ⟨task, field, generation, delay, hsubmits, hwhen, hsubmission, -⟩, rfl⟩
    rw [hsubmission]
    exact ⟨field, generation, delay, hsubmits, hwhen⟩
  · rintro ⟨field, generation, delay, hsubmits, hwhen⟩
    let applied := (run (actions ++ [action])).1.generations.isCurrent field generation
    refine ⟨⟨⟨madeBefore (actions ++ [action]) task, field, generation, task⟩, applied⟩, ?_, rfl⟩
    exact ⟨task, field, generation, delay, hsubmits, hwhen, rfl,
      (reflects_run (actions ++ [action])).1.isCurrent_iff⟩

/-- The results have arrived that belong to submissions whose delays have passed. -/
theorem arrived_iff :
    (∃ arrival ∈ log actions, arrival.submission.result = task) ↔
      ∃ field generation delay, Submits actions task field generation delay ∧
        instantAt actions task + delay ≤ elapsed actions := by
  induction actions using List.reverseRecOn with
  | nil =>
    refine iff_of_false nofun ?_
    rintro ⟨_, _, _, ⟨action, haction, -⟩, -⟩
    cases haction
  | append_singleton actions action ih =>
    have hmem := (perform_spec (reflects_run actions).1 (reflects_run actions).2 action).2.2.1
    simp only [log_append, List.mem_append, hmem, or_and_right, exists_or, passed_append_iff]
    exact or_congr ih arrivesIn_iff

/-! ## Two arrivals -/

theorem generationOf_take {count : Nat} (hlt : number < count) :
    generationOf (actions.take count) number = generationOf actions number := by
  rw [generationOf, List.take_take, Nat.min_eq_left hlt]
  rfl

theorem Submits.of_take {count : Nat}
    (hsubmits : Submits (actions.take count) task field generation delay) :
    Submits actions task field generation delay := by
  obtain ⟨action, haction, hcase⟩ := hsubmits
  have hlt := Trace.lt_length_of_getElem? haction
  rw [List.length_take] at hlt
  rw [List.getElem?_take_of_lt (by omega)] at haction
  rw [generationOf_take (by omega)] at hcase
  exact ⟨action, haction, hcase⟩

/-- A result arrives in the action in which the delay of its submission has passed,
and is applied if its generation is the latest one then. -/
theorem arrives_spec (houtcome : (run actions).2[number]? = some outcome)
    (harrival : arrival ∈ outcome.arrivals) :
    ∃ delay, Submits actions arrival.submission.result arrival.submission.field
        arrival.submission.generation delay ∧ arrival.submission.result ≤ number ∧
      (delay = 0 ∧ arrival.submission.result = number ∨ delay ≠ 0 ∧
        instantAt actions number < instantAt actions arrival.submission.result + delay ∧
        instantAt actions arrival.submission.result + delay ≤ instantAt actions (number + 1)) ∧
      (arrival.applied = true ↔ IsLatest (actions.take (number + 1)) arrival.submission.field
        arrival.submission.generation) := by
  obtain ⟨action, haction⟩ := Trace.exists_step houtcome
  obtain ⟨htracks, hreflects⟩ := reflects_run (actions.take number)
  rw [Trace.outcome_eq haction houtcome] at harrival
  obtain ⟨task, field, generation, delay, hsubmits, hwhen, hsubmission, happlied⟩ :=
    ((perform_spec htracks hreflects action).2.2.1 arrival).1 harrival
  rw [← Trace.take_succ_of_getElem? haction] at hsubmits hwhen happlied
  have hlt := hsubmits.lt_length
  rw [List.length_take] at hlt
  have hinstant : instantAt (actions.take (number + 1)) task = instantAt actions task :=
    Trace.instantAt_take _ _ (by omega)
  rw [hinstant, Trace.length_take_of_getElem? haction] at hwhen
  have hle : task ≤ number := by omega
  rw [hsubmission]
  exact ⟨delay, hsubmits.of_take, hle, hwhen, happlied⟩

/-- What holds of any two results of which the one arrives no later than the other. -/
theorem pairwise_log {R : Arrival Nat → Arrival Nat → Prop}
    (hpair : ∀ (first second : Nat) (before after : Outcome), first ≤ second →
      (run actions).2[first]? = some before → (run actions).2[second]? = some after →
      ∀ a ∈ before.arrivals, ∀ b ∈ after.arrivals,
        a.submission.result ≠ b.submission.result → R a b) :
    (log actions).Pairwise R := by
  rw [log, List.pairwise_flatMap]
  constructor
  · intro outcome hmem
    obtain ⟨number, houtcome⟩ := List.getElem?_of_mem hmem
    obtain ⟨action, haction⟩ := Trace.exists_step houtcome
    obtain ⟨htracks, hreflects⟩ := reflects_run (actions.take number)
    have hnodup : (outcome.arrivals.map (·.submission.result)).Nodup := by
      rw [Trace.outcome_eq haction houtcome]
      exact (perform_spec htracks hreflects action).2.2.2
    refine (List.pairwise_map.1 hnodup).imp_of_mem fun {a b} ha hb hne => ?_
    exact hpair number number outcome outcome (Nat.le_refl _) houtcome houtcome a ha b hb hne
  · rw [List.pairwise_iff_getElem]
    intro first second hfirst hsecond hlt a ha b hb
    have hbefore : (run actions).2[first]? = some (run actions).2[first] :=
      List.getElem?_eq_getElem hfirst
    have hafter : (run actions).2[second]? = some (run actions).2[second] :=
      List.getElem?_eq_getElem hsecond
    refine hpair first second _ _ (Nat.le_of_lt hlt) hbefore hafter a ha b hb fun heq => ?_
    -- the instant at which a result arrives lies in one action only
    obtain ⟨delay, hsubmits, -, hwhen, -⟩ := arrives_spec hbefore ha
    obtain ⟨delay', hsubmits', -, hwhen', -⟩ := arrives_spec hafter hb
    rw [← heq] at hsubmits' hwhen'
    obtain ⟨-, -, rfl⟩ := hsubmits.unique hsubmits'
    have hmono : instantAt actions (first + 1) ≤ instantAt actions second :=
      Trace.instantAt_mono _ _ hlt
    rcases hwhen with ⟨hzero, hfirst⟩ | ⟨hdelay, -, hby⟩ <;>
      rcases hwhen' with ⟨hzero', hsecond⟩ | ⟨hdelay', hafter, -⟩
    · omega
    · exact hdelay' hzero
    · exact hdelay hzero'
    · omega

/-- An action starts a generation of its field and submits work for it. -/
def IsSubmit (actions : List Action) (task : Nat) : Prop :=
  ∃ field delay, actions[task]? = some (.submit field delay)

theorem IsSubmit.spec (hsubmit : IsSubmit actions task)
    (hsubmits : Submits actions task field generation delay) :
    actions[task]? = some (.submit field delay) ∧ generation = generationOf actions task := by
  obtain ⟨other, delay', haction⟩ := hsubmit
  obtain ⟨action, hfound, hcase⟩ := hsubmits
  rw [haction] at hfound
  cases hfound
  rcases hcase with ⟨h, hgeneration⟩ | h
  · cases h
    exact ⟨haction, hgeneration⟩
  · cases h

/-- When the result of a submission is applied, no later submission of its field has
been made. -/
theorem le_of_isLatest {first second delay delay' : Nat}
    (hfirst : actions[first]? = some (.submit field delay))
    (hsecond : actions[second]? = some (.submit field delay')) (hle : first ≤ number)
    (hlatest : IsLatest (actions.take (number + 1)) field (generationOf actions second)) :
    first ≤ second := by
  obtain ⟨last, action, haction, hbegun, hgeneration, hlast⟩ := hlatest
  have hlt := Trace.lt_length_of_getElem? haction
  rw [List.length_take] at hlt
  rw [List.getElem?_take_of_lt (by omega)] at haction
  rw [generationOf_take (by omega)] at hgeneration
  obtain rfl : second = last := by
    rcases Nat.lt_trichotomy second last with h | rfl | h
    · exact absurd hgeneration (Nat.ne_of_lt (generationOf_lt haction hbegun h))
    · rfl
    · exact absurd hgeneration (Nat.ne_of_gt (generationOf_lt hsecond rfl h))
  refine Nat.le_of_not_lt fun hlater => hlast first (.submit field delay) hlater ?_ (.inl rfl)
  rw [List.getElem?_take_of_lt (by omega), hfirst]

/-! ## The law -/

/-- Whether an action hands out the generation that it gives to a field. -/
def Action.handsOut : Action → Bool
  | begin _ | submit _ _ => true
  | _ => false

/-- The law of runs. -/
structure Lawful (actions : List Action) : Prop where
  /-- Every action shows something. -/
  answered : (run actions).2.length = actions.length
  /-- An action hands out the generation that it gives to a field. -/
  generation_eq : ∀ number action (outcome : Outcome), actions[number]? = some action →
    (run actions).2[number]? = some outcome →
      outcome.generation = if action.handsOut then some (generationOf actions number) else none
  /-- The generations that are handed out get higher, whatever the fields. -/
  increasing : ((run actions).2.filterMap (·.generation)).Pairwise (· < ·)
  /-- A result is applied at once if and only if its generation is the latest one. -/
  ifCurrent_iff : ∀ number field generation (outcome : Outcome),
    actions[number]? = some (.ifCurrent field generation) →
    (run actions).2[number]? = some outcome →
      (outcome.result = some number ↔ IsLatest (actions.take number) field generation) ∧
      (outcome.result = none ↔ ¬ IsLatest (actions.take number) field generation)
  /-- The result of a submission has arrived if and only if its delay has passed. -/
  arrives_iff : ∀ task field generation delay, Submits actions task field generation delay →
    ((∃ arrival ∈ log actions, arrival.submission.result = task) ↔
      instantAt actions task + delay ≤ elapsed actions)
  /-- It arrives in the action in which the delay has passed, and is applied if and
  only if its generation is the latest one then. -/
  applied_iff : ∀ number (outcome : Outcome), (run actions).2[number]? = some outcome →
    ∀ arrival ∈ outcome.arrivals, ∃ delay,
      Submits actions arrival.submission.result arrival.submission.field
        arrival.submission.generation delay ∧
      (delay = 0 ∧ arrival.submission.result = number ∨ delay ≠ 0 ∧
        instantAt actions number < instantAt actions arrival.submission.result + delay ∧
        instantAt actions arrival.submission.result + delay ≤ instantAt actions (number + 1)) ∧
      (arrival.applied = true ↔ IsLatest (actions.take (number + 1)) arrival.submission.field
        arrival.submission.generation)
  /-- No result arrives twice. -/
  once : ((log actions).map (·.submission.result)).Nodup
  /-- Results of one field that each have a generation of their own are applied in the
  order of the generations. -/
  applied_increasing : ((log actions).filter (·.applied)).Pairwise fun before after =>
    before.submission.field = after.submission.field →
    IsSubmit actions before.submission.result → IsSubmit actions after.submission.result →
      before.submission.generation < after.submission.generation

/-- What an action hands out. -/
theorem generation_perform (s : Submissions Nat) (htracks : Tracks actions s.generations)
    (action : Action) :
    (s.perform actions.length action).2.generation =
      if action.handsOut then some (generationOf (actions ++ [action]) actions.length) else none := by
  cases action with
  | begin field => exact congrArg some (htracks.begin rfl).2
  | submit field delay => exact congrArg some (htracks.begin rfl).2
  | _ => rfl

theorem generation_eq (haction : actions[number]? = some action)
    (houtcome : (run actions).2[number]? = some outcome) :
    outcome.generation =
      if action.handsOut then some (generationOf actions number) else none := by
  rw [Trace.outcome_eq haction houtcome]
  refine (generation_perform _ (reflects_run _).1 action).trans ?_
  rw [← Trace.take_succ_of_getElem? haction, Trace.length_take_of_getElem? haction,
    generationOf_take (Nat.lt_succ_self _)]

theorem begun?_of_handsOut (hhandsOut : action.handsOut = true) :
    ∃ field, action.begun? = some field := by
  cases action with
  | begin field => exact ⟨field, rfl⟩
  | submit field delay => exact ⟨field, rfl⟩
  | _ => cases hhandsOut

theorem generations_increasing (actions : List Action) :
    ((run actions).2.filterMap (·.generation)).Pairwise (· < ·) := by
  have hgeneration : ∀ {number outcome generation}, (run actions).2[number]? = some outcome →
      outcome.generation = some generation → generation = generationOf actions number ∧
        ∃ action field, actions[number]? = some action ∧ action.begun? = some field := by
    intro number outcome generation houtcome htold
    obtain ⟨action, haction⟩ := Trace.exists_step houtcome
    rw [generation_eq haction houtcome] at htold
    split at htold
    · rename_i hhandsOut
      obtain ⟨field, hbegun⟩ := begun?_of_handsOut hhandsOut
      exact ⟨(Option.some.inj htold).symm, action, field, haction, hbegun⟩
    · cases htold
  rw [List.pairwise_filterMap, List.pairwise_iff_getElem]
  intro first second hfirst hsecond hlt generation htold generation' htold'
  obtain ⟨rfl, -⟩ := hgeneration (List.getElem?_eq_getElem hfirst) htold
  obtain ⟨rfl, action, field, haction, hbegun⟩ :=
    hgeneration (List.getElem?_eq_getElem hsecond) htold'
  exact generationOf_lt haction hbegun hlt

/-- Of two results that arrive one after the other, the second one has the higher
generation if it is applied. -/
theorem log_increasing (actions : List Action) :
    (log actions).Pairwise fun before after =>
      before.applied = true → after.applied = true →
      before.submission.field = after.submission.field →
      IsSubmit actions before.submission.result → IsSubmit actions after.submission.result →
        before.submission.generation < after.submission.generation := by
  refine pairwise_log fun first second before after hle hbefore hafter a ha b hb hne => ?_
  intro _ happlied hfield hsubmit hsubmit'
  obtain ⟨delay, hsubmits, hfirst, -⟩ := arrives_spec hbefore ha
  obtain ⟨delay', hsubmits', -, -, hiff⟩ := arrives_spec hafter hb
  obtain ⟨haction, hgeneration⟩ := hsubmit.spec hsubmits
  obtain ⟨haction', hgeneration'⟩ := hsubmit'.spec hsubmits'
  have hlatest := hiff.1 happlied
  rw [hgeneration', ← hfield] at hlatest
  have hlast : a.submission.result ≤ b.submission.result :=
    le_of_isLatest haction (hfield ▸ haction') (Nat.le_trans hfirst hle) hlatest
  rw [hgeneration, hgeneration']
  exact generationOf_lt haction' rfl (Nat.lt_of_le_of_ne hlast hne)

/-- Every run of actions is lawful. -/
theorem lawful_arrivals (actions : List Action) : Lawful actions where
  answered := Trace.length_run _ _ _
  generation_eq number action outcome := generation_eq
  increasing := generations_increasing actions
  ifCurrent_iff number field generation outcome haction houtcome := by
    have hcurrent : (run (actions.take number)).1.generations.isCurrent field generation = true ↔
        IsLatest (actions.take number) field generation := (reflects_run _).1.isCurrent_iff
    have hresult : outcome.result =
        (run (actions.take number)).1.ifCurrent field generation number := by
      rw [Trace.outcome_eq haction houtcome, Trace.length_take_of_getElem? haction]
      rfl
    rw [hresult, ifCurrent, Generations.ifCurrent, ← hcurrent]
    split
    · rename_i hlatest
      exact ⟨iff_of_true rfl hlatest, iff_of_false nofun fun h => h hlatest⟩
    · rename_i hlatest
      exact ⟨iff_of_false nofun hlatest, iff_of_true rfl hlatest⟩
  arrives_iff task field generation delay hsubmits := by
    rw [arrived_iff]
    constructor
    · rintro ⟨_, _, _, hother, hby⟩
      obtain ⟨-, -, rfl⟩ := hsubmits.unique hother
      exact hby
    · exact fun hby => ⟨field, generation, delay, hsubmits, hby⟩
  applied_iff number outcome houtcome arrival harrival := by
    obtain ⟨delay, hsubmits, -, hwhen, happlied⟩ := arrives_spec houtcome harrival
    exact ⟨delay, hsubmits, hwhen, happlied⟩
  once := List.pairwise_map.2 (pairwise_log fun _ _ _ _ _ _ _ _ _ _ _ hne => hne)
  applied_increasing := List.pairwise_filter.2 (log_increasing actions)

end FieldRules.Submissions
