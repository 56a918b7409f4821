import FieldRules.Proofs.Scheduling

/-!
# Timers with keys in place of sleepers

A task that has been superseded sleeps on in a scheduler, which has only forgotten
its id.  A clock with keys takes the timer of such a task away.  Whatever is done
with them, the two show the same.

* `Scheduler.keyedClock`: the clock with a timer for each task that waits.
* `performKeyed`: what can be done with a scheduler, done with a clock.
* `performKeyed_keyedClock`: it shows the same as with the scheduler.
* `run_keyed`: so does a whole run.
-/

namespace FieldRules

namespace Scheduler

variable {α : Type} {actions : List Action} {field : String}

/-! ## The clock with the tasks that wait -/

/-- The timer of a sleeper, with its field as the key. -/
def keyed (timer : Timer (Sleeper α)) : Timer α :=
  ⟨timer.due, some timer.event.field, timer.event.task⟩

/-- The clock with a timer for each task that waits. -/
def keyedClock (s : Scheduler α) : Clock α where
  now := s.clock.now
  timers := (s.clock.timers.filter fun timer => s.awaits timer.event).map keyed

/-- The clock without some of the timers. -/
theorem filter_keyedClock (s : Scheduler α) {keeps : Timer α → Bool}
    (keeps' : Timer (Sleeper α) → Bool) (hkeeps : ∀ timer, keeps (keyed timer) = keeps' timer) :
    s.keyedClock.timers.filter keeps =
      (s.clock.timers.filter fun timer => s.awaits timer.event && keeps' timer).map keyed := by
  rw [keyedClock, List.filter_map, List.filter_filter]
  refine congrArg _ (List.filter_congr fun timer _ => ?_)
  rw [Function.comp_apply, hkeeps, Bool.and_comm]

theorem keyedClock_cancel (s : Scheduler α) (field : String) :
    (s.cancel field).1.keyedClock = s.keyedClock.cancel field := by
  refine congrArg (Clock.mk s.clock.now) ?_
  refine Eq.trans ?_ (s.filter_keyedClock (fun timer => timer.event.field ≠ field)
    fun timer => by simp [keyed]).symm
  refine congrArg _ (List.filter_congr fun timer _ => ?_)
  rw [Bool.eq_iff_iff, Bool.and_eq_true, awaits_iff, awaits_iff, decide_eq_true_iff, cancel]
  by_cases hfield : field = timer.event.field
  · rw [hfield, Assoc.find?_drop_self]
    exact iff_of_false (by simp) fun h => h.2 rfl
  · rw [Assoc.find?_drop_of_ne _ hfield]
    exact (and_iff_left (Ne.symm hfield)).symm

theorem keyedClock_cancelAll (s : Scheduler α) :
    s.cancelAll.keyedClock = s.keyedClock.cancelAll := by
  refine congrArg (Clock.mk s.clock.now) ?_
  refine Eq.trans ?_ (s.filter_keyedClock (fun _ => false) fun timer => rfl).symm
  refine congrArg _ (List.filter_congr fun timer _ => ?_)
  rw [Bool.and_false]
  rfl

/-! ## What the clock tells of the tasks that wait -/

variable {s : Scheduler Nat}

/-- The ids that are kept are those of sleepers. -/
theorem Reflects.has_iff (hreflects : Reflects actions s) (field : String) :
    s.waiting.has field = true ↔
      ∃ timer ∈ s.clock.timers, s.awaits timer.event = true ∧ timer.event.field = field := by
  rw [Assoc.has, Option.isSome_iff_exists]
  constructor
  · rintro ⟨id, hfind⟩
    obtain ⟨task, due, hschedules, hdue, -, rfl⟩ := (hreflects.waiting_iff field id).1 hfind
    refine ⟨⟨due, none, idOf actions task, field, task⟩, ?_, Scheduler.awaits_iff.2 hfind, rfl⟩
    rw [hreflects.sleepers.mem_iff, hreflects.now]
    exact ⟨⟨task, field, due, hschedules, rfl⟩, hdue⟩
  · rintro ⟨timer, -, hawaits, rfl⟩
    exact ⟨timer.event.id, Scheduler.awaits_iff.1 hawaits⟩

theorem Reflects.isPending_keyedClock (hreflects : Reflects actions s) (field : String) :
    s.keyedClock.isPending field = s.isPending field := by
  rw [Bool.eq_iff_iff, Scheduler.isPending, hreflects.has_iff, Clock.isPending, keyedClock,
    List.any_map, List.any_filter, List.any_eq_true]
  simp [keyed]

/-- Each field has one task that waits, if any. -/
theorem Reflects.pendingCount_keyedClock (hreflects : Reflects actions s) :
    s.keyedClock.pendingCount = s.pendingCount := by
  have hcount : s.keyedClock.pendingCount =
      ((s.clock.timers.filter fun timer => s.awaits timer.event).map (·.event.field)).length := by
    rw [Clock.pendingCount, keyedClock, List.countP_map, List.length_map]
    exact List.countP_eq_length.2 fun _ _ => rfl
  have hwaiting : s.pendingCount = (s.waiting.map (·.1)).length := (List.length_map Prod.fst).symm
  rw [hcount, hwaiting]
  refine ((List.perm_ext_iff_of_nodup ?_ hreflects.nodup).2 fun field => ?_).length_eq
  · -- two sleepers of a field that are awaited would have one id
    refine List.pairwise_map.2 (((List.pairwise_map.1 hreflects.nodup_ids).filter _).imp_of_mem
      fun {a b} ha hb hne hfield => hne ?_)
    have hfirst := Scheduler.awaits_iff.1 (List.mem_filter.1 ha).2
    have hsecond := Scheduler.awaits_iff.1 (List.mem_filter.1 hb).2
    rw [hfield, hsecond] at hfirst
    exact (Option.some.inj hfirst).symm
  · refine Iff.trans ?_ ((hreflects.has_iff field).symm.trans (Assoc.mem_keys_iff _ _).symm)
    simp only [List.mem_map, List.mem_filter, and_assoc]

/-! ## Operations on either of them -/

/-- The timer of a new task takes the place of the one that its field had. -/
theorem Reflects.keyedClock_schedule (hreflects : Reflects actions s) (field : String)
    (delay task : Nat) :
    (s.schedule field delay task).1.keyedClock = (s.keyedClock.schedule field delay task).1 ∧
      (s.schedule field delay task).2 =
        (s.keyedClock.schedule field delay task).2.map fun task => ⟨s.clock.now, task⟩ := by
  rw [Scheduler.schedule, Clock.schedule]
  split
  · exact ⟨keyedClock_cancel s field, rfl⟩
  · refine ⟨?_, rfl⟩
    rw [← keyedClock_cancel, Clock.set]
    refine congrArg (Clock.mk s.clock.now) ?_
    have hsorted : s.clock.timers.Pairwise (·.due ≤ ·.due) := hreflects.sleepers.sorted.imp
      fun hprecedes => hprecedes.elim Nat.le_of_lt fun h => Nat.le_of_eq h.1
    rw [Clock.filter_insertTimer hsorted (Scheduler.awaits_iff.2 (Assoc.find?_put_self _ _ _)),
      Clock.map_insertTimer (f := keyed) fun _ _ => Iff.rfl]
    refine congrArg (Clock.insertTimer _) (congrArg _ (List.filter_congr fun timer hmem => ?_))
    -- no other sleeper has the new id
    obtain ⟨⟨older, other, _, hschedules, rfl⟩, -⟩ := (hreflects.sleepers.mem_iff timer).1 hmem
    have hid := idOf_lt hschedules hschedules.lt_length
    rw [← hreflects.issued] at hid
    rw [Bool.eq_iff_iff, Scheduler.awaits_iff, Scheduler.awaits_iff, Scheduler.cancel]
    dsimp only
    by_cases hfield : field = other
    · rw [hfield, Assoc.find?_put_self, Assoc.find?_drop_self]
      exact iff_of_false (fun h => Nat.ne_of_gt hid (Option.some.inj h)) (by simp)
    · rw [Assoc.find?_put_of_ne _ _ hfield, Assoc.find?_drop_of_ne _ hfield]

/-- The tasks that run are those whose timers run out. -/
theorem Reflects.keyedClock_advance (hreflects : Reflects actions s) (ms : Nat) :
    (s.advance ms).1.keyedClock = (s.keyedClock.advance ms).1 ∧
      (s.advance ms).2 = (s.keyedClock.advance ms).2.map fun timer => ⟨timer.due, timer.event⟩ := by
  have hkeyed : s.keyedClock.timers.Pairwise (Clock.Precedes id) :=
    List.pairwise_map.2 ((hreflects.sleepers.sorted.filter _).imp id)
  obtain ⟨hran, hclock, -, hwaiting⟩ := hreflects.wake_advance ms
  rw [Clock.advance_eq hreflects.sleepers.sorted] at hran hclock hwaiting
  rw [Clock.advance_eq hkeyed]
  dsimp only at hran hwaiting ⊢
  refine ⟨?_, ?_⟩
  · rw [keyedClock, hclock]
    refine congrArg (Clock.mk (s.clock.now + ms)) ?_
    refine Eq.trans ?_ (s.filter_keyedClock
      (fun timer => s.clock.now + ms < timer.due) fun timer => rfl).symm
    rw [List.filter_filter]
    refine congrArg _ (List.filter_congr fun timer hmem => ?_)
    rw [Bool.eq_iff_iff, Bool.and_eq_true, Bool.and_eq_true, Scheduler.awaits_iff,
      Scheduler.awaits_iff, hwaiting, decide_eq_true_iff]
    refine and_congr_left fun hlater => and_iff_left fun other hother _ hid => ?_
    -- the sleeper that wakes up would be this one
    obtain ⟨hother, hby⟩ := List.mem_filter.1 hother
    rw [List.inj_on_of_nodup_map hreflects.nodup_ids hother hmem hid, decide_eq_true_iff] at hby
    exact Nat.not_le.2 hlater hby
  · rw [hran, s.filter_keyedClock (fun timer => timer.due ≤ s.clock.now + ms)
      fun timer => rfl, List.filter_filter, List.map_map]
    rfl

/-! ## Runs with either of them -/

/-- What can be done with a scheduler, done with a clock that has the tasks under
the fields that they are scheduled for. -/
def performKeyed (clock : Clock Nat) (number : Nat) (action : Action) : Clock Nat × Outcome :=
  let (after, answer, ran) : Clock Nat × Option Bool × List (Run Nat) :=
    match action with
    | .schedule field delay =>
      let (after, tasks) := clock.schedule field delay number
      (after, none, tasks.map fun task => ⟨clock.now, task⟩)
    | .cancel field => (clock.cancel field, some (clock.isPending field), [])
    | .cancelAll => (clock.cancelAll, none, [])
    | .isPending field => (clock, some (clock.isPending field), [])
    | .advance ms =>
      let (after, due) := clock.advance ms
      (after, none, due.map fun timer => ⟨timer.due, timer.event⟩)
  (after, ⟨answer, ran, after.pendingCount⟩)

/-- An action shows the same with the clock as with the scheduler. -/
theorem Reflects.performKeyed_keyedClock (hreflects : Reflects actions s) (action : Action) :
    performKeyed s.keyedClock actions.length action =
      ((s.perform actions.length action).1.keyedClock, (s.perform actions.length action).2) := by
  have hcount := (hreflects.perform action).1.pendingCount_keyedClock
  have hsame : ∀ {clock : Clock Nat} {after : Scheduler Nat} {answer answer' : Option Bool}
      {ran ran' : List (Run Nat)}, clock = after.keyedClock → answer = answer' → ran = ran' →
      after.keyedClock.pendingCount = after.pendingCount →
      (clock, Outcome.mk answer ran clock.pendingCount) =
        (after.keyedClock, ⟨answer', ran', after.pendingCount⟩) := by
    rintro _ after answer _ ran _ rfl rfl rfl hcount
    rw [hcount]
  cases action with
  | schedule field delay =>
    obtain ⟨hclock, hran⟩ := hreflects.keyedClock_schedule field delay actions.length
    exact hsame hclock.symm rfl hran.symm hcount
  | cancel field =>
    exact hsame (keyedClock_cancel s field).symm
      (congrArg some (hreflects.isPending_keyedClock field)) rfl hcount
  | cancelAll => exact hsame (keyedClock_cancelAll s).symm rfl rfl hcount
  | isPending field =>
    exact hsame rfl (congrArg some (hreflects.isPending_keyedClock field)) rfl hcount
  | advance ms =>
    obtain ⟨hclock, hran⟩ := hreflects.keyedClock_advance ms
    exact hsame hclock.symm rfl hran.symm hcount

/-- A run shows the same with a clock as with a scheduler. -/
theorem run_keyed (actions : List Action) :
    Trace.run performKeyed {} actions = ((run actions).1.keyedClock, (run actions).2) := by
  induction actions using List.reverseRecOn with
  | nil => rfl
  | append_singleton actions action ih =>
    rw [run, Trace.run_append_singleton, Trace.run_append_singleton, ih,
      (reflects_run actions).performKeyed_keyedClock action]
    rfl

end Scheduler

end FieldRules
