import Mathlib.Data.Finset.Card
import FieldRules.Proofs.Scheduling

/-!
# Which tasks run, and when

A task that is scheduled with a delay runs when its instant comes, unless an action
before that instant supersedes it.  This is said of whole runs of actions, in which
each task is the number of the action that schedules it.

* `log`: the tasks that have run; `mem_log_iff` says which ones, `sorted_log` in
  which order.
* `Waits`: a task that may still run.
* `lawful_runs`: the law of runs.
-/

namespace FieldRules.Scheduler

variable {actions : List Action} {action : Action} {field : String} {task : Nat}
  {s : Scheduler Nat} {ran : Run Nat}

/-! ## Runs -/

/-- The tasks that have run, in turn. -/
def log (actions : List Action) : List (Run Nat) :=
  (run actions).2.flatMap (·.ran)

theorem log_append :
    log (actions ++ [action]) =
      log actions ++ ((run actions).1.perform actions.length action).2.ran := by
  rw [log, run, Trace.run_append_singleton, List.flatMap_append, List.flatMap_singleton]
  rfl

/-- With one more action, those tasks have run besides that run in it. -/
theorem runsAt_append :
    RunsAt (actions ++ [action]) ran ↔ RunsAt actions ran ∨ RunsIn actions action ran := by
  have hle : elapsed actions ≤ elapsed (actions ++ [action]) := by
    rw [elapsed_append]
    exact Nat.le_add_right _ _
  constructor
  · rintro (⟨field, haction, hinstant⟩ | ⟨field, hschedules, hby, hnot⟩)
    · rw [Trace.getElem?_append_singleton] at haction
      split at haction
      · rename_i hold
        rw [instantAt, Trace.instantAt_append _ (Nat.le_of_lt hold)] at hinstant
        exact .inl (.inl ⟨field, haction, hinstant⟩)
      · split at haction
        · rename_i htask
          cases haction
          rw [htask, instantAt, Trace.instantAt_length] at hinstant
          refine .inr (.inl ⟨field, rfl, ?_⟩)
          rw [← htask]
          exact congrArg (fun instant => Run.mk instant ran.task) hinstant
        · cases haction
    · rw [supersededBefore_append, not_or] at hnot
      rcases schedules_append.1 hschedules with hold | ⟨-, delay, hdelay, rfl, hinstant⟩
      · by_cases hpast : ran.instant ≤ elapsed actions
        · exact .inl (.inr ⟨field, hold, hpast, hnot.1⟩)
        · have hafter := Nat.lt_of_not_le hpast
          refine .inr (.inr ⟨field, hold, hafter, hby, ?_⟩)
          rw [← supersededBefore_iff hafter]
          exact hnot.1
      · -- the task has only just begun to sleep
        rw [elapsed_append, hinstant] at hby
        exact absurd (Nat.le_of_add_le_add_left hby) (Nat.not_le.2 (Nat.pos_of_ne_zero hdelay))
  · rintro ((⟨field, haction, hinstant⟩ | ⟨field, hschedules, hpast, hnot⟩) |
      (⟨field, rfl, rfl⟩ | ⟨field, hschedules, hafter, hby, hnot⟩))
    · have hold := Trace.lt_length_of_getElem? haction
      refine .inl ⟨field, ?_, ?_⟩
      · rw [List.getElem?_append_left hold, haction]
      · rw [hinstant, instantAt, instantAt, Trace.instantAt_append _ (Nat.le_of_lt hold)]
    · refine .inr ⟨field, schedules_append.2 (.inl hschedules), Nat.le_trans hpast hle, ?_⟩
      rw [supersededBefore_append, not_or]
      exact ⟨hnot, fun h => Nat.not_lt.2 hpast h.2.1⟩
    · exact .inl ⟨field, by simp, (Trace.instantAt_length _ _ _).symm⟩
    · refine .inr ⟨field, schedules_append.2 (.inl hschedules), hby, ?_⟩
      rw [supersededBefore_append, not_or, supersededBefore_iff hafter]
      refine ⟨hnot, ?_⟩
      rintro ⟨_, _, hsupersedes⟩
      -- an action that supersedes a task takes no time
      rw [elapsed_append, hsupersedes.duration_eq] at hby
      exact Nat.not_lt.2 hby hafter

theorem mem_log_iff : ran ∈ log actions ↔ RunsAt actions ran := by
  induction actions using List.reverseRecOn with
  | nil =>
    refine iff_of_false List.not_mem_nil ?_
    rintro (⟨_, haction, -⟩ | ⟨_, ⟨_, -, haction, -⟩, -⟩) <;> cases haction
  | append_singleton actions action ih =>
    rw [log_append, List.mem_append, ih, runsAt_append,
      ((reflects_run actions).perform action).2.1]

theorem RunsAt.instant_le (hruns : RunsAt actions ran) :
    ran.instant ≤ elapsed actions := by
  rcases hruns with ⟨_, -, hinstant⟩ | ⟨_, -, hle, -⟩
  · rw [hinstant]
    exact Trace.instantAt_le_elapsed _ _ _
  · exact hle

theorem RunsAt.lt_length (hruns : RunsAt actions ran) :
    ran.task < actions.length := by
  rcases hruns with ⟨_, haction, -⟩ | ⟨_, hschedules, -⟩
  · exact Trace.lt_length_of_getElem? haction
  · exact hschedules.lt_length

/-- Tasks run in the order of their instants, and those of one instant in the order
in which they have been scheduled. -/
theorem sorted_log (actions : List Action) : (log actions).Pairwise Run.Precedes := by
  induction actions using List.reverseRecOn with
  | nil => exact .nil
  | append_singleton actions action ih =>
    obtain ⟨-, hran, hsorted⟩ := (reflects_run actions).perform action
    rw [log_append, List.pairwise_append]
    refine ⟨ih, hsorted, fun before hbefore after hafter => ?_⟩
    have hold := mem_log_iff.1 hbefore
    rcases (hran after).1 hafter with ⟨_, -, rfl⟩ | ⟨_, -, hlt, -⟩
    · exact (Nat.lt_or_eq_of_le hold.instant_le).imp id fun heq => ⟨heq, hold.lt_length⟩
    · exact .inl (Nat.lt_of_le_of_lt hold.instant_le hlt)

/-- A task that sleeps runs at the end of its sleep. -/
theorem RunsAt.instant_eq (hruns : RunsAt actions ran) {delay : Nat}
    (haction : actions[ran.task]? = some (.schedule field delay)) :
    ran.instant = instantAt actions ran.task + delay := by
  rcases hruns with ⟨_, hfound, hinstant⟩ | ⟨_, ⟨_, -, hfound, hinstant⟩, -⟩ <;>
    · rw [haction] at hfound
      cases hfound
      exact hinstant

theorem RunsAt.scheduled (hruns : RunsAt actions ran) :
    ∃ field delay, actions[ran.task]? = some (.schedule field delay) := by
  rcases hruns with ⟨field, hfound, -⟩ | ⟨field, ⟨delay, -, hfound, -⟩, -⟩
  · exact ⟨field, 0, hfound⟩
  · exact ⟨field, delay, hfound⟩

/-- No task runs twice. -/
theorem nodup_log (actions : List Action) : ((log actions).map (·.task)).Nodup := by
  refine List.pairwise_map.2 ((sorted_log actions).imp_of_mem fun {a b} ha hb hprecedes heq => ?_)
  obtain ⟨field, delay, haction⟩ := (mem_log_iff.1 ha).scheduled
  have hinstant := (mem_log_iff.1 ha).instant_eq haction
  have hinstant' := (mem_log_iff.1 hb).instant_eq (heq ▸ haction)
  rw [← heq, ← hinstant] at hinstant'
  rcases hprecedes with h | ⟨-, h⟩
  · exact Nat.ne_of_lt h hinstant'.symm
  · exact Nat.ne_of_lt h heq

/-- A task of a field waits: it is to sleep, has not run and has not been
superseded. -/
structure Waits (actions : List Action) (task : Nat) (field : String) : Prop where
  scheduled : ∃ delay, delay ≠ 0 ∧ actions[task]? = some (.schedule field delay)
  not_run : ∀ ran ∈ log actions, ran.task ≠ task
  not_superseded : ¬ Superseded actions task field

/-- A task waits while it sleeps and has not been superseded. -/
theorem waits_iff :
    Waits actions task field ↔ ∃ due, Schedules actions task field due ∧
      elapsed actions < due ∧ ¬ Superseded actions task field := by
  constructor
  · rintro ⟨⟨delay, hdelay, haction⟩, hrun, hnot⟩
    refine ⟨_, ⟨delay, hdelay, haction, rfl⟩, Nat.lt_of_not_le fun hle => ?_, hnot⟩
    refine hrun ⟨_, task⟩ (mem_log_iff.2 (.inr
      ⟨field, ⟨delay, hdelay, haction, rfl⟩, hle, ?_⟩)) rfl
    rintro ⟨number, action, hlt, hfound, -, hsupersedes⟩
    exact hnot ⟨number, action, hlt, hfound, hsupersedes⟩
  · rintro ⟨due, ⟨delay, hdelay, haction, rfl⟩, hdue, hnot⟩
    refine ⟨⟨delay, hdelay, haction⟩, ?_, hnot⟩
    rintro ran hmem rfl
    have hruns := mem_log_iff.1 hmem
    rw [← hruns.instant_eq haction] at hdue
    exact Nat.not_le.2 hdue hruns.instant_le

theorem Reflects.isPending_iff_waits (hreflects : Reflects actions s) (field : String) :
    s.isPending field = true ↔ ∃ task, Waits actions task field :=
  (hreflects.isPending_iff field).trans (exists_congr fun _ => waits_iff.symm)

/-- The fields with a task that waits are those of the ids that are kept. -/
theorem Reflects.mem_waiting_iff (hreflects : Reflects actions s) (field : String) :
    field ∈ s.waiting.map (·.1) ↔ ∃ task, Waits actions task field :=
  (Assoc.mem_keys_iff _ _).trans (hreflects.isPending_iff_waits field)

/-! ## The law -/

/-- The law of runs. -/
structure Lawful (actions : List Action) : Prop where
  /-- Every action shows something. -/
  answered : (run actions).2.length = actions.length
  /-- A task that is to sleep runs if and only if its instant comes and it is not
  superseded before. -/
  runs_iff : ∀ task field delay, actions[task]? = some (.schedule field delay) → delay ≠ 0 →
    ((∃ ran ∈ log actions, ran.task = task) ↔
      instantAt actions task + delay ≤ elapsed actions ∧
        ¬ SupersededBefore actions task field (instantAt actions task + delay))
  /-- A task runs at its instant. -/
  instant_eq : ∀ ran ∈ log actions, ∃ field delay,
    actions[ran.task]? = some (.schedule field delay) ∧
      ran.instant = instantAt actions ran.task + delay
  /-- A task runs in the action in which its instant comes. -/
  timely : ∀ number (outcome : Outcome), (run actions).2[number]? = some outcome →
    ∀ ran ∈ outcome.ran,
      instantAt actions number ≤ ran.instant ∧ ran.instant ≤ instantAt actions (number + 1)
  /-- No task runs twice. -/
  once : ((log actions).map (·.task)).Nodup
  /-- Tasks run in the order of their instants, and those of one instant in the
  order in which they have been scheduled. -/
  sorted : (log actions).Pairwise Run.Precedes
  /-- A task without a delay runs in its own action, and no other one does. -/
  immediate : ∀ task field (outcome : Outcome), actions[task]? = some (.schedule field 0) →
    (run actions).2[task]? = some outcome → outcome.ran = [⟨instantAt actions task, task⟩]
  /-- It is told whether a task has been cancelled. -/
  cancel_answer : ∀ number field (outcome : Outcome), actions[number]? = some (.cancel field) →
    (run actions).2[number]? = some outcome → ∃ answer, outcome.answer = some answer ∧
      (answer = true ↔ ∃ task, Waits (actions.take number) task field)
  /-- It is told whether a task waits. -/
  isPending_answer : ∀ number field (outcome : Outcome), actions[number]? = some (.isPending field) →
    (run actions).2[number]? = some outcome → ∃ answer, outcome.answer = some answer ∧
      (answer = true ↔ ∃ task, Waits (actions.take number) task field)
  /-- The fields are counted for which a task waits. -/
  pending_count : ∀ number (outcome : Outcome), (run actions).2[number]? = some outcome →
    ∃ fields : Finset String, outcome.pending = fields.card ∧
      ∀ field, field ∈ fields ↔ ∃ task, Waits (actions.take (number + 1)) task field

/-- Every run of actions is lawful. -/
theorem lawful_runs (actions : List Action) : Lawful actions where
  answered := Trace.length_run _ _ _
  runs_iff task field delay haction hdelay := by
    have hschedules : Schedules actions task field (instantAt actions task + delay) :=
      ⟨delay, hdelay, haction, rfl⟩
    constructor
    · rintro ⟨⟨instant, _⟩, hmem, rfl⟩
      have hruns := mem_log_iff.1 hmem
      rw [← hruns.instant_eq haction]
      rcases hruns with ⟨_, hfound, -⟩ | ⟨other, ⟨_, -, hfound, -⟩, hle, hnot⟩
      · rw [haction] at hfound
        cases hfound
        exact absurd rfl hdelay
      · rw [haction] at hfound
        cases hfound
        exact ⟨hle, hnot⟩
    · rintro ⟨hle, hnot⟩
      exact ⟨⟨_, task⟩, mem_log_iff.2 (.inr ⟨field, hschedules, hle, hnot⟩), rfl⟩
  instant_eq ran hmem := by
    obtain ⟨field, delay, haction⟩ := (mem_log_iff.1 hmem).scheduled
    exact ⟨field, delay, haction, (mem_log_iff.1 hmem).instant_eq haction⟩
  timely number outcome houtcome ran hmem := by
    obtain ⟨action, haction⟩ := Trace.exists_step houtcome
    rw [Trace.outcome_eq haction houtcome] at hmem
    have hruns := (((reflects_run _).perform action).2.1 ran).1 hmem
    rw [instantAt, instantAt, Trace.instantAt, Trace.instantAt, Trace.take_succ_of_getElem? haction]
    exact hruns.instant_le
  once := nodup_log actions
  sorted := sorted_log actions
  immediate task field outcome haction houtcome := by
    have hnow := (reflects_run (actions.take task)).now
    rw [Trace.outcome_eq haction houtcome, Trace.length_take_of_getElem? haction]
    exact congrArg (fun now => [Run.mk now task]) hnow
  cancel_answer number field outcome haction houtcome := by
    rw [Trace.outcome_eq haction houtcome]
    exact ⟨_, rfl, (reflects_run _).isPending_iff_waits field⟩
  isPending_answer number field outcome haction houtcome := by
    rw [Trace.outcome_eq haction houtcome]
    exact ⟨_, rfl, (reflects_run _).isPending_iff_waits field⟩
  pending_count number outcome houtcome := by
    obtain ⟨action, haction⟩ := Trace.exists_step houtcome
    have hreflects := ((reflects_run (actions.take number)).perform action).1
    rw [← Trace.take_succ_of_getElem? haction] at hreflects
    refine ⟨_, ?_, fun field => List.mem_toFinset.trans (hreflects.mem_waiting_iff field)⟩
    rw [Trace.outcome_eq haction houtcome, List.toFinset_card_of_nodup hreflects.nodup,
      List.length_map]
    rfl

end FieldRules.Scheduler
