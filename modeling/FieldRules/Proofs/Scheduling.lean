import FieldRules.Scheduler
import FieldRules.Proofs.Traces

/-!
# What a scheduler holds after some actions

* `Schedules`, `Superseded`, `RunsAt`: what the actions alone tell about a task.
* `wake_eq`: of the tasks that wake up together, those run that were awaited before.
* `Reflects`: the sleepers are all tasks whose instants are still to come, and the
  ids that are kept are those of the tasks that have not been superseded.
* `Reflects.perform`: every action keeps this, and runs the tasks that it has to.
-/

namespace FieldRules.Scheduler

variable {actions : List Action} {action : Action} {field other : String}
  {number task instant due : Nat}

/-! ## What the actions tell -/

/-- The time that some actions take. -/
abbrev elapsed (actions : List Action) : Nat :=
  Trace.elapsed Action.duration actions

/-- The instant at which the action of a number is carried out. -/
abbrev instantAt (actions : List Action) (number : Nat) : Nat :=
  Trace.instantAt Action.duration actions number

/-- The action supersedes the task that waits for a field. -/
def Action.Supersedes (field : String) : Action → Prop
  | schedule other _ | cancel other => other = field
  | cancelAll => True
  | isPending _ | advance _ => False

/-- A task of a field is to sleep until an instant. -/
def Schedules (actions : List Action) (task : Nat) (field : String) (due : Nat) : Prop :=
  ∃ delay, delay ≠ 0 ∧ actions[task]? = some (.schedule field delay) ∧
    due = instantAt actions task + delay

/-- The task of a field has been superseded. -/
def Superseded (actions : List Action) (task : Nat) (field : String) : Prop :=
  ∃ number action, task < number ∧ actions[number]? = some action ∧ action.Supersedes field

/-- The task of a field has been superseded before an instant has come. -/
def SupersededBefore (actions : List Action) (task : Nat) (field : String) (instant : Nat) : Prop :=
  ∃ number action, task < number ∧ actions[number]? = some action ∧
    instantAt actions number < instant ∧ action.Supersedes field

/-- A task runs at an instant: at once, or when it has slept its time and has not
been superseded before. -/
def RunsAt (actions : List Action) (run : Run Nat) : Prop :=
  (∃ field, actions[run.task]? = some (.schedule field 0) ∧
    run.instant = instantAt actions run.task) ∨
  ∃ field, Schedules actions run.task field run.instant ∧ run.instant ≤ elapsed actions ∧
    ¬ SupersededBefore actions run.task field run.instant

/-- Whether an action schedules a task that sleeps. -/
def Action.sleeps : Action → Bool
  | schedule _ delay => delay ≠ 0
  | _ => false

/-- How many tasks that sleep have been scheduled before an action: the id of the
task that it schedules. -/
def idOf (actions : List Action) (number : Nat) : Nat :=
  (actions.take number).countP Action.sleeps

/-! ### One more action -/

theorem Schedules.lt_length (hschedules : Schedules actions task field due) :
    task < actions.length := by
  obtain ⟨delay, -, haction, -⟩ := hschedules
  exact Trace.lt_length_of_getElem? haction

theorem schedules_append :
    Schedules (actions ++ [action]) task field due ↔
      Schedules actions task field due ∨
        task = actions.length ∧ ∃ delay, delay ≠ 0 ∧ action = .schedule field delay ∧
          due = elapsed actions + delay := by
  unfold Schedules
  rw [Trace.getElem?_append_singleton]
  rcases Nat.lt_trichotomy task actions.length with hlt | rfl | hgt
  · rw [if_pos hlt, instantAt, Trace.instantAt_append _ (Nat.le_of_lt hlt),
      or_iff_left fun h => absurd h.1 (Nat.ne_of_lt hlt)]
  · rw [if_neg (Nat.lt_irrefl _), if_pos rfl, instantAt, Trace.instantAt_length,
      List.getElem?_eq_none (Nat.le_refl _)]
    simp
  · rw [if_neg (Nat.lt_asymm hgt), if_neg (Nat.ne_of_gt hgt),
      List.getElem?_eq_none (Nat.le_of_lt hgt)]
    simp [Nat.ne_of_gt hgt]

theorem superseded_append :
    Superseded (actions ++ [action]) task field ↔
      Superseded actions task field ∨ task < actions.length ∧ action.Supersedes field := by
  constructor
  · rintro ⟨number, found, hlt, hfound, hsupersedes⟩
    rw [Trace.getElem?_append_singleton] at hfound
    split at hfound
    · exact .inl ⟨number, found, hlt, hfound, hsupersedes⟩
    · split at hfound
      · rename_i heq
        cases hfound
        exact .inr ⟨heq ▸ hlt, hsupersedes⟩
      · cases hfound
  · rintro (⟨number, found, hlt, hfound, hsupersedes⟩ | ⟨hlt, hsupersedes⟩)
    · refine ⟨number, found, hlt, ?_, hsupersedes⟩
      rw [List.getElem?_append_left (Trace.lt_length_of_getElem? hfound), hfound]
    · exact ⟨actions.length, action, hlt, by simp, hsupersedes⟩

theorem supersededBefore_append :
    SupersededBefore (actions ++ [action]) task field instant ↔
      SupersededBefore actions task field instant ∨
        task < actions.length ∧ elapsed actions < instant ∧ action.Supersedes field := by
  constructor
  · rintro ⟨number, found, hlt, hfound, hinstant, hsupersedes⟩
    rw [Trace.getElem?_append_singleton] at hfound
    split at hfound
    · rename_i hold
      rw [instantAt, Trace.instantAt_append _ (Nat.le_of_lt hold)] at hinstant
      exact .inl ⟨number, found, hlt, hfound, hinstant, hsupersedes⟩
    · split at hfound
      · rename_i heq
        cases hfound
        subst heq
        rw [instantAt, Trace.instantAt_length] at hinstant
        exact .inr ⟨hlt, hinstant, hsupersedes⟩
      · cases hfound
  · rintro (⟨number, found, hlt, hfound, hinstant, hsupersedes⟩ | ⟨hlt, hinstant, hsupersedes⟩)
    · have hold := Trace.lt_length_of_getElem? hfound
      refine ⟨number, found, hlt, ?_, ?_, hsupersedes⟩
      · rw [List.getElem?_append_left hold, hfound]
      · rwa [instantAt, Trace.instantAt_append _ (Nat.le_of_lt hold)]
    · refine ⟨actions.length, action, hlt, by simp, ?_, hsupersedes⟩
      rwa [instantAt, Trace.instantAt_length]

/-- As long as an instant has not come, all that has happened has been before. -/
theorem supersededBefore_iff (hinstant : elapsed actions < instant) :
    SupersededBefore actions task field instant ↔ Superseded actions task field := by
  constructor
  · rintro ⟨number, found, hlt, hfound, -, hsupersedes⟩
    exact ⟨number, found, hlt, hfound, hsupersedes⟩
  · rintro ⟨number, found, hlt, hfound, hsupersedes⟩
    exact ⟨number, found, hlt, hfound,
      Nat.lt_of_le_of_lt (Trace.instantAt_le_elapsed _ _ _) hinstant, hsupersedes⟩

/-! ### Ids -/

theorem idOf_append (hle : number ≤ actions.length) :
    idOf (actions ++ [action]) number = idOf actions number := by
  rw [idOf, List.take_append_of_le_length hle]
  rfl

theorem idOf_length (actions : List Action) :
    idOf actions actions.length = actions.countP Action.sleeps := by
  rw [idOf, List.take_length]

theorem idOf_lt (hschedules : Schedules actions task field due) (hlt : task < number) :
    idOf actions task < idOf actions number := by
  obtain ⟨delay, hdelay, haction, -⟩ := hschedules
  have hnext : idOf actions (task + 1) = idOf actions task + 1 := by
    rw [idOf, List.take_add_one, haction, List.countP_append]
    simp [idOf, Action.sleeps, hdelay]
  rw [← Nat.succ_le_iff, Nat.succ_eq_add_one, ← hnext]
  exact (List.take_sublist_take_left (Nat.succ_le_of_lt hlt)).countP_le

/-- Two tasks that sleep have different ids. -/
theorem eq_of_idOf_eq {task' : Nat} {field' : String} {due' : Nat}
    (hschedules : Schedules actions task field due)
    (hschedules' : Schedules actions task' field' due')
    (heq : idOf actions task = idOf actions task') : task = task' := by
  rcases Nat.lt_trichotomy task task' with hlt | rfl | hgt
  · exact absurd heq (Nat.ne_of_lt (idOf_lt hschedules hlt))
  · rfl
  · exact absurd heq (Nat.ne_of_gt (idOf_lt hschedules' hgt))

/-! ## Waking up -/

section Wake

variable {α : Type} {s : Scheduler α} {timers : List (Timer (Sleeper α))}

theorem awaits_iff {sleeper : Sleeper α} :
    s.awaits sleeper = true ↔ s.waiting.find? sleeper.field = some sleeper.id :=
  decide_eq_true_iff

/-- Of several sleepers with different ids, those run that were awaited before. -/
theorem wake_eq (timers : List (Timer (Sleeper α))) :
    ∀ (s : Scheduler α), (timers.map (·.event.id)).Nodup →
      (s.wake timers).2 =
          (timers.filter fun timer => s.awaits timer.event).map
            (fun timer => ⟨timer.due, timer.event.task⟩) ∧
        (s.wake timers).1.clock = s.clock ∧ (s.wake timers).1.issued = s.issued ∧
        ∀ field id, (s.wake timers).1.waiting.find? field = some id ↔
          s.waiting.find? field = some id ∧
            ∀ timer ∈ timers, timer.event.field = field → timer.event.id ≠ id := by
  induction timers with
  | nil => exact fun s _ => ⟨rfl, rfl, rfl, by simp [wake]⟩
  | cons timer rest ih =>
    intro s hnodup
    obtain ⟨hhead, hrest⟩ := List.nodup_cons.1 hnodup
    have hne : ∀ other ∈ rest, other.event.id ≠ timer.event.id :=
      fun other hmem heq => hhead (List.mem_map.2 ⟨other, hmem, heq⟩)
    rw [wake]
    split
    · rename_i hawaits
      have hid := awaits_iff.1 hawaits
      obtain ⟨hran, hclock, hissued, hwaiting⟩ := ih (s.cancel timer.event.field).1 hrest
      -- no later sleeper of this field is awaited, for it has another id
      have hsame : ∀ other ∈ rest, (s.cancel timer.event.field).1.awaits other.event =
          s.awaits other.event := by
        intro other hmem
        rw [Bool.eq_iff_iff, awaits_iff, awaits_iff]
        by_cases hfield : timer.event.field = other.event.field
        · rw [← hfield, hid, cancel, Assoc.find?_drop_self]
          refine iff_of_false nofun fun heq => hne other hmem (Option.some.inj heq).symm
        · rw [cancel, Assoc.find?_drop_of_ne _ hfield]
      refine ⟨?_, hclock, hissued, fun field id => ?_⟩
      · rw [List.filter_cons, if_pos hawaits, List.map_cons, ← List.filter_congr hsame, ← hran]
      · rw [hwaiting, List.forall_mem_cons]
        by_cases hfield : timer.event.field = field
        · rw [← hfield, cancel, Assoc.find?_drop_self, hid]
          refine iff_of_false (fun h => nomatch h.1) ?_
          rintro ⟨heq, hother, -⟩
          exact hother rfl (Option.some.inj heq)
        · rw [cancel, Assoc.find?_drop_of_ne _ hfield]
          refine and_congr_right fun _ => (and_iff_right fun h => absurd h hfield).symm
    · rename_i hnot
      obtain ⟨hran, hclock, hissued, hwaiting⟩ := ih s hrest
      refine ⟨?_, hclock, hissued, fun field id => ?_⟩
      · rw [List.filter_cons, if_neg hnot, hran]
      · rw [hwaiting, List.forall_mem_cons]
        refine and_congr_right fun hfind => (and_iff_right fun hfield hid => hnot ?_).symm
        rw [awaits_iff, hfield, hid, hfind]

theorem nodup_wake (timers : List (Timer (Sleeper α))) :
    ∀ (s : Scheduler α), (s.waiting.map (·.1)).Nodup →
      ((s.wake timers).1.waiting.map (·.1)).Nodup := by
  induction timers with
  | nil => exact fun _ hnodup => hnodup
  | cons timer rest ih =>
    intro s hnodup
    rw [wake]
    split
    · exact ih _ (Assoc.nodup_keys_drop hnodup _)
    · exact ih s hnodup

end Wake

/-! ## What a scheduler holds -/

/-- The timer of a task that sleeps. -/
def IsSleeper (actions : List Action) (timer : Timer (Sleeper Nat)) : Prop :=
  ∃ task field due, Schedules actions task field due ∧
    timer = ⟨due, none, idOf actions task, field, task⟩

/-- The scheduler after some actions.  All tasks sleep whose instants are still to
come; the ids that are kept are those of the tasks that have not been superseded. -/
structure Reflects (actions : List Action) (s : Scheduler Nat) : Prop where
  now : s.clock.now = elapsed actions
  issued : s.issued = idOf actions actions.length
  sleepers : s.clock.Keeps (·.task) (IsSleeper actions)
  waiting_iff : ∀ field id, s.waiting.find? field = some id ↔
    ∃ task due, Schedules actions task field due ∧ elapsed actions < due ∧
      ¬ Superseded actions task field ∧ id = idOf actions task
  nodup : (s.waiting.map (·.1)).Nodup

variable {s : Scheduler Nat}

theorem Reflects.start : Reflects [] {} where
  now := rfl
  issued := rfl
  sleepers := .empty _ fun timer => by
    rintro ⟨task, field, due, ⟨delay, -, haction, -⟩, -⟩
    cases haction
  waiting_iff field id := by
    refine iff_of_false nofun ?_
    rintro ⟨task, due, ⟨delay, -, haction, -⟩, -⟩
    cases haction
  nodup := List.nodup_nil

/-- A task is awaited while it sleeps and has not been superseded. -/
theorem Reflects.awaits_iff (hreflects : Reflects actions s)
    (hschedules : Schedules actions task field due) (hdue : elapsed actions < due) :
    s.awaits ⟨idOf actions task, field, task⟩ = true ↔ ¬ Superseded actions task field := by
  rw [Scheduler.awaits_iff, hreflects.waiting_iff]
  constructor
  · rintro ⟨task', due', hschedules', -, hnot, hid⟩
    rwa [eq_of_idOf_eq hschedules hschedules' hid]
  · exact fun hnot => ⟨task, due, hschedules, hdue, hnot, rfl⟩

/-- A field has a task that waits if and only if one of its tasks sleeps and has not
been superseded. -/
theorem Reflects.isPending_iff (hreflects : Reflects actions s) (field : String) :
    s.isPending field = true ↔ ∃ task due, Schedules actions task field due ∧
      elapsed actions < due ∧ ¬ Superseded actions task field := by
  rw [isPending, Assoc.has, Option.isSome_iff_exists]
  constructor
  · rintro ⟨id, hfind⟩
    obtain ⟨task, due, hschedules, hdue, hnot, -⟩ := (hreflects.waiting_iff field id).1 hfind
    exact ⟨task, due, hschedules, hdue, hnot⟩
  · rintro ⟨task, due, hschedules, hdue, hnot⟩
    exact ⟨_, (hreflects.waiting_iff field _).2 ⟨task, due, hschedules, hdue, hnot, rfl⟩⟩

/-! ## One action -/

theorem elapsed_append :
    elapsed (actions ++ [action]) = elapsed actions + action.duration :=
  Trace.elapsed_append_singleton _ _ _

theorem Action.Supersedes.duration_eq (hsupersedes : action.Supersedes field) :
    action.duration = 0 := by
  cases action with
  | advance => exact hsupersedes.elim
  | _ => rfl

theorem Schedules.not_supersedes_iff (hschedules : Schedules actions task field due) :
    ¬ Superseded (actions ++ [action]) task field ↔
      ¬ Superseded actions task field ∧ ¬ action.Supersedes field := by
  rw [superseded_append, not_or, not_and]
  exact and_congr_right fun _ => ⟨fun h => h hschedules.lt_length, fun h _ => h⟩

section Awake

variable (hawake : action.sleeps = false)
include hawake

theorem schedules_append_of_awake :
    Schedules (actions ++ [action]) task field due ↔ Schedules actions task field due := by
  rw [schedules_append, or_iff_left]
  rintro ⟨-, delay, hdelay, rfl, -⟩
  rw [Action.sleeps, decide_eq_false_iff_not] at hawake
  exact hawake hdelay

theorem idOf_length_of_awake :
    idOf (actions ++ [action]) (actions ++ [action]).length = idOf actions actions.length := by
  rw [idOf_length, idOf_length, List.countP_append]
  simp [hawake]

theorem isSleeper_append_of_awake (timer : Timer (Sleeper Nat)) :
    IsSleeper (actions ++ [action]) timer ↔ IsSleeper actions timer := by
  refine exists_congr fun task => exists_congr fun field => exists_congr fun due => ?_
  rw [schedules_append_of_awake hawake]
  exact and_congr_right fun h => by rw [idOf_append (Nat.le_of_lt h.lt_length)]

/-- An action that takes no time and schedules no task drops the tasks that it
supersedes. -/
theorem Reflects.of_supersedes (hreflects : Reflects actions s) {after : Scheduler Nat}
    (hduration : action.duration = 0) (hclock : after.clock = s.clock)
    (hissued : after.issued = s.issued)
    (hwaiting : ∀ field id, after.waiting.find? field = some id ↔
      s.waiting.find? field = some id ∧ ¬ action.Supersedes field)
    (hnodup : (after.waiting.map (·.1)).Nodup) :
    Reflects (actions ++ [action]) after where
  now := by rw [hclock, hreflects.now, elapsed_append, hduration, Nat.add_zero]
  issued := by rw [hissued, hreflects.issued, idOf_length_of_awake hawake]
  sleepers := by
    rw [hclock]
    exact hreflects.sleepers.congr (isSleeper_append_of_awake hawake)
  waiting_iff field id := by
    rw [hwaiting, hreflects.waiting_iff, elapsed_append, hduration, Nat.add_zero]
    constructor
    · rintro ⟨⟨task, due, hschedules, hdue, hnot, hid⟩, hother⟩
      refine ⟨task, due, (schedules_append_of_awake hawake).2 hschedules, hdue,
        hschedules.not_supersedes_iff.2 ⟨hnot, hother⟩, ?_⟩
      rw [hid, idOf_append (Nat.le_of_lt hschedules.lt_length)]
    · rintro ⟨task, due, hschedules, hdue, hnot, hid⟩
      have hold := (schedules_append_of_awake hawake).1 hschedules
      rw [idOf_append (Nat.le_of_lt hold.lt_length)] at hid
      obtain ⟨hnot, hother⟩ := hold.not_supersedes_iff.1 hnot
      exact ⟨⟨task, due, hold, hdue, hnot, hid⟩, hother⟩
  nodup := hnodup

end Awake

/-- The task of a field is cancelled. -/
theorem Reflects.cancel (hreflects : Reflects actions s) (hawake : action.sleeps = false)
    (hduration : action.duration = 0)
    (hsupersedes : ∀ other, action.Supersedes other ↔ field = other) :
    Reflects (actions ++ [action]) (s.cancel field).1 := by
  refine hreflects.of_supersedes hawake hduration rfl rfl (fun other id => ?_)
    (Assoc.nodup_keys_drop hreflects.nodup _)
  rw [hsupersedes, Scheduler.cancel]
  by_cases hfield : field = other
  · subst hfield
    rw [Assoc.find?_drop_self]
    exact iff_of_false nofun fun h => h.2 rfl
  · rw [Assoc.find?_drop_of_ne _ hfield]
    exact (and_iff_left hfield).symm

theorem Reflects.cancelAll (hreflects : Reflects actions s) :
    Reflects (actions ++ [.cancelAll]) s.cancelAll :=
  hreflects.of_supersedes rfl rfl rfl rfl
    (fun _ _ => iff_of_false nofun fun h => h.2 trivial) List.nodup_nil

theorem Reflects.isPending (hreflects : Reflects actions s) :
    Reflects (actions ++ [.isPending field]) s :=
  hreflects.of_supersedes rfl rfl rfl rfl
    (fun _ _ => (and_iff_left id).symm) hreflects.nodup

section Schedule

variable {delay : Nat} (hdelay : delay ≠ 0)
include hdelay

/-- One more task sleeps. -/
theorem isSleeper_append_schedule (timer : Timer (Sleeper Nat)) :
    IsSleeper (actions ++ [.schedule field delay]) timer ↔ IsSleeper actions timer ∨
      timer = ⟨elapsed actions + delay, none, idOf actions actions.length, field,
        actions.length⟩ := by
  constructor
  · rintro ⟨task, other, due, hschedules, rfl⟩
    rcases schedules_append.1 hschedules with hold | ⟨rfl, _, -, haction, rfl⟩
    · rw [idOf_append (Nat.le_of_lt hold.lt_length)]
      exact .inl ⟨task, other, due, hold, rfl⟩
    · cases haction
      rw [idOf_append (Nat.le_refl _)]
      exact .inr rfl
  · rintro (⟨task, other, due, hschedules, rfl⟩ | rfl)
    · refine ⟨task, other, due, schedules_append.2 (.inl hschedules), ?_⟩
      rw [idOf_append (Nat.le_of_lt hschedules.lt_length)]
    · refine ⟨actions.length, field, _,
        schedules_append.2 (.inr ⟨rfl, delay, hdelay, rfl, rfl⟩), ?_⟩
      rw [idOf_append (Nat.le_refl _)]

/-- The new task is the only one of its field that has not been superseded. -/
theorem schedules_append_self {task due : Nat} :
    Schedules (actions ++ [.schedule field delay]) task field due ∧
        ¬ Superseded (actions ++ [.schedule field delay]) task field ↔
      task = actions.length ∧ due = elapsed actions + delay := by
  constructor
  · rintro ⟨hschedules, hnot⟩
    rcases schedules_append.1 hschedules with hold | ⟨rfl, _, -, haction, rfl⟩
    · exact absurd rfl (hold.not_supersedes_iff.1 hnot).2
    · cases haction
      exact ⟨rfl, rfl⟩
  · rintro ⟨rfl, rfl⟩
    refine ⟨schedules_append.2 (.inr ⟨rfl, delay, hdelay, rfl, rfl⟩), ?_⟩
    rw [superseded_append]
    rintro (⟨number, action, hlt, haction, -⟩ | ⟨hlt, -⟩)
    · exact absurd (Trace.lt_length_of_getElem? haction) (Nat.lt_asymm hlt)
    · exact Nat.lt_irrefl _ hlt

/-- A task that is to sleep takes the place of the one that waits. -/
theorem Reflects.schedule (hreflects : Reflects actions s) :
    Reflects (actions ++ [.schedule field delay]) (s.schedule field delay actions.length).1 := by
  have helapsed : elapsed (actions ++ [.schedule field delay]) = elapsed actions := elapsed_append
  rw [Scheduler.schedule, if_neg hdelay]
  refine ⟨?_, ?_, ?_, fun other id => ?_, Assoc.nodup_keys_put hreflects.nodup _ _⟩
  · rw [helapsed, ← hreflects.now]
    rfl
  · rw [hreflects.issued, idOf_length, idOf_length, List.countP_append]
    simp [Action.sleeps, hdelay]
  · refine (hreflects.sleepers.set hdelay ?_).congr fun timer => ?_
    · rintro timer ⟨task, field, due, hschedules, rfl⟩
      exact hschedules.lt_length
    · rw [hreflects.now, hreflects.issued]
      exact isSleeper_append_schedule hdelay timer
  · rw [helapsed, hreflects.issued]
    by_cases hfield : field = other
    · subst hfield
      rw [Assoc.find?_put_self, Option.some_inj]
      constructor
      · rintro rfl
        obtain ⟨hschedules, hnot⟩ := (schedules_append_self hdelay).2 ⟨rfl, rfl⟩
        exact ⟨_, _, hschedules, by omega, hnot, (idOf_append (Nat.le_refl _)).symm⟩
      · rintro ⟨task, due, hschedules, -, hnot, rfl⟩
        obtain ⟨rfl, -⟩ := (schedules_append_self hdelay).1 ⟨hschedules, hnot⟩
        exact (idOf_append (Nat.le_refl _)).symm
    · rw [Assoc.find?_put_of_ne _ _ hfield, hreflects.waiting_iff]
      constructor
      · rintro ⟨task, due, hschedules, hdue, hnot, rfl⟩
        exact ⟨task, due, schedules_append.2 (.inl hschedules), hdue,
          hschedules.not_supersedes_iff.2 ⟨hnot, hfield⟩,
          (idOf_append (Nat.le_of_lt hschedules.lt_length)).symm⟩
      · rintro ⟨task, due, hschedules, hdue, hnot, rfl⟩
        rcases schedules_append.1 hschedules with hold | ⟨-, _, -, haction, -⟩
        · exact ⟨task, due, hold, hdue, (hold.not_supersedes_iff.1 hnot).1,
            idOf_append (Nat.le_of_lt hold.lt_length)⟩
        · cases haction
          exact absurd rfl hfield

end Schedule

/-! ### The clock moves on -/

theorem Schedules.due_eq {due' : Nat} {field' : String}
    (hschedules : Schedules actions task field due)
    (hschedules' : Schedules actions task field' due') : due = due' := by
  obtain ⟨delay, -, haction, rfl⟩ := hschedules
  obtain ⟨delay', -, haction', rfl⟩ := hschedules'
  rw [haction] at haction'
  cases haction'
  rfl

/-- Tasks that sleep have different ids. -/
theorem nodup_ids {timers : List (Timer (Sleeper Nat))}
    (hsleepers : ∀ timer ∈ timers, IsSleeper actions timer)
    (hsorted : timers.Pairwise (Clock.Precedes (·.task))) :
    (timers.map (·.event.id)).Nodup := by
  refine List.pairwise_map.2 (hsorted.imp_of_mem fun {a b} ha hb hprecedes heq => ?_)
  obtain ⟨task, field, due, hschedules, rfl⟩ := hsleepers a ha
  obtain ⟨task', field', due', hschedules', rfl⟩ := hsleepers b hb
  obtain rfl := eq_of_idOf_eq hschedules hschedules' heq
  obtain rfl := hschedules.due_eq hschedules'
  rcases hprecedes with h | ⟨-, h⟩ <;> exact Nat.lt_irrefl _ h

theorem Reflects.nodup_ids (hreflects : Reflects actions s) :
    (s.clock.timers.map (·.event.id)).Nodup :=
  Scheduler.nodup_ids (fun timer hmem => ((hreflects.sleepers.mem_iff timer).1 hmem).1)
    hreflects.sleepers.sorted

/-- Of the sleepers whose instants come, those run that were awaited before. -/
theorem Reflects.wake_advance (hreflects : Reflects actions s) (ms : Nat) :
    (s.advance ms).2 =
        ((s.clock.advance ms).2.filter fun timer => s.awaits timer.event).map
          (fun timer => ⟨timer.due, timer.event.task⟩) ∧
      (s.advance ms).1.clock = (s.clock.advance ms).1 ∧ (s.advance ms).1.issued = s.issued ∧
      ∀ field id, (s.advance ms).1.waiting.find? field = some id ↔
        s.waiting.find? field = some id ∧
          ∀ timer ∈ (s.clock.advance ms).2, timer.event.field = field → timer.event.id ≠ id := by
  refine wake_eq (s.clock.advance ms).2 { s with clock := (s.clock.advance ms).1 } ?_
  rw [Clock.advance_eq hreflects.sleepers.sorted]
  exact (List.filter_sublist.map _).nodup hreflects.nodup_ids

/-- A run is before another one: at an earlier instant, or at the same one and of a
task that has been scheduled earlier. -/
def Run.Precedes (a b : Run Nat) : Prop :=
  a.instant < b.instant ∨ a.instant = b.instant ∧ a.task < b.task

/-- As the clock moves on, the tasks run whose instants come, unless they have been
superseded. -/
theorem Reflects.advance (hreflects : Reflects actions s) (ms : Nat) :
    Reflects (actions ++ [.advance ms]) (s.advance ms).1 ∧
      (∀ run, run ∈ (s.advance ms).2 ↔ ∃ field, Schedules actions run.task field run.instant ∧
        elapsed actions < run.instant ∧ run.instant ≤ elapsed actions + ms ∧
        ¬ Superseded actions run.task field) ∧
      (s.advance ms).2.Pairwise Run.Precedes := by
  obtain ⟨hkeeps, hmem, hsorted⟩ := hreflects.sleepers.advance ms
  rw [hreflects.now] at hmem
  have hmem_iff : ∀ {task field due}, Schedules actions task field due → elapsed actions < due →
      (⟨due, none, idOf actions task, field, task⟩ ∈ (s.clock.advance ms).2 ↔
        due ≤ elapsed actions + ms) := by
    intro task field due hschedules hdue
    rw [hmem]
    exact ⟨fun h => h.2.2, fun h => ⟨⟨task, field, due, hschedules, rfl⟩, hdue, h⟩⟩
  obtain ⟨hran, hclock, hissued, hwaiting⟩ := hreflects.wake_advance ms
  refine ⟨⟨?_, ?_, ?_, fun field id => ?_, nodup_wake _ _ hreflects.nodup⟩, fun run => ?_, ?_⟩
  · rw [hclock, elapsed_append, ← hreflects.now]
    rfl
  · rw [hissued, idOf_length_of_awake rfl]
    exact hreflects.issued
  · rw [hclock]
    exact hkeeps.congr (isSleeper_append_of_awake rfl)
  · rw [hwaiting, hreflects.waiting_iff, elapsed_append]
    constructor
    · rintro ⟨⟨task, due, hschedules, hdue, hnot, rfl⟩, hother⟩
      refine ⟨task, due, (schedules_append_of_awake rfl).2 hschedules, Nat.lt_of_not_le fun hle => ?_,
        hschedules.not_supersedes_iff.2 ⟨hnot, id⟩,
        (idOf_append (Nat.le_of_lt hschedules.lt_length)).symm⟩
      exact hother _ ((hmem_iff hschedules hdue).2 hle) rfl rfl
    · rintro ⟨task, due, hschedules, hdue, hnot, rfl⟩
      have hold := (schedules_append_of_awake rfl).1 hschedules
      have hid : idOf (actions ++ [.advance ms]) task = idOf actions task :=
        idOf_append (Nat.le_of_lt hold.lt_length)
      refine ⟨⟨task, due, hold, Nat.lt_of_le_of_lt (Nat.le_add_right _ _) hdue,
        (hold.not_supersedes_iff.1 hnot).1, hid⟩, fun timer htimer _ heq => ?_⟩
      obtain ⟨⟨task', field', due', hschedules', rfl⟩, -, hle⟩ := (hmem timer).1 htimer
      obtain rfl := eq_of_idOf_eq hschedules' hold (heq.trans hid)
      obtain rfl := hschedules'.due_eq hold
      exact Nat.lt_irrefl _ (Nat.lt_of_lt_of_le hdue hle)
  · rw [hran, List.mem_map]
    constructor
    · rintro ⟨timer, htimer, rfl⟩
      obtain ⟨htimer, hawaits⟩ := List.mem_filter.1 htimer
      obtain ⟨⟨task, field, due, hschedules, rfl⟩, hdue, hle⟩ := (hmem timer).1 htimer
      exact ⟨field, hschedules, hdue, hle, (hreflects.awaits_iff hschedules hdue).1 hawaits⟩
    · rintro ⟨field, hschedules, hdue, hle, hnot⟩
      exact ⟨_, List.mem_filter.2 ⟨(hmem_iff hschedules hdue).2 hle,
        (hreflects.awaits_iff hschedules hdue).2 hnot⟩, rfl⟩
  · rw [hran]
    exact List.pairwise_map.2 (hsorted.sublist (List.filter_sublist))

/-! ### Any action -/

/-- A task runs in the action that comes after some others. -/
def RunsIn (actions : List Action) (action : Action) (run : Run Nat) : Prop :=
  (∃ field, action = .schedule field 0 ∧ run = ⟨elapsed actions, actions.length⟩) ∨
  ∃ field, Schedules actions run.task field run.instant ∧ elapsed actions < run.instant ∧
    run.instant ≤ elapsed (actions ++ [action]) ∧ ¬ Superseded actions run.task field

/-- Only the clock lets a task run that sleeps. -/
theorem RunsIn.of_duration {run : Run Nat} (hruns : RunsIn actions action run)
    (hduration : action.duration = 0) :
    ∃ field, action = .schedule field 0 ∧ run = ⟨elapsed actions, actions.length⟩ := by
  rcases hruns with h | ⟨field, -, hafter, hby, -⟩
  · exact h
  · rw [elapsed_append, hduration] at hby
    exact absurd hafter (Nat.not_lt.2 hby)

theorem RunsIn.instant_le {run : Run Nat} (hruns : RunsIn actions action run) :
    elapsed actions ≤ run.instant ∧ run.instant ≤ elapsed (actions ++ [action]) := by
  rcases hruns with ⟨_, -, rfl⟩ | ⟨_, -, hafter, hby, -⟩
  · exact ⟨Nat.le_refl _, by rw [elapsed_append]; exact Nat.le_add_right _ _⟩
  · exact ⟨Nat.le_of_lt hafter, hby⟩

/-- After an action the scheduler holds what the actions up to it tell, and the
tasks have run in it that had to, in order. -/
theorem Reflects.perform (hreflects : Reflects actions s) (action : Action) :
    Reflects (actions ++ [action]) (s.perform actions.length action).1 ∧
      (∀ run, run ∈ (s.perform actions.length action).2.ran ↔ RunsIn actions action run) ∧
      (s.perform actions.length action).2.ran.Pairwise Run.Precedes := by
  have hnone : action.duration = 0 → (∀ field, action ≠ .schedule field 0) →
      ∀ run, run ∈ ([] : List (Run Nat)) ↔ RunsIn actions action run := by
    intro hduration hnot run
    refine iff_of_false List.not_mem_nil fun hruns => ?_
    obtain ⟨field, haction, -⟩ := hruns.of_duration hduration
    exact hnot field haction
  cases action with
  | schedule field delay =>
    by_cases hdelay : delay = 0
    · subst hdelay
      refine ⟨?_, fun run => ?_, List.pairwise_singleton _ _⟩
      · exact hreflects.cancel rfl rfl fun other => Iff.rfl
      · have hran : (s.perform actions.length (.schedule field 0)).2.ran =
            [⟨elapsed actions, actions.length⟩] := by rw [← hreflects.now]; rfl
        rw [hran, List.mem_singleton]
        refine ⟨fun h => .inl ⟨field, rfl, h⟩, fun hruns => ?_⟩
        obtain ⟨_, -, h⟩ := hruns.of_duration rfl
        exact h
    · have hran : (s.perform actions.length (.schedule field delay)).2.ran = [] := by
        rw [Scheduler.perform, Scheduler.schedule, if_neg hdelay]
      rw [hran]
      refine ⟨hreflects.schedule hdelay, hnone rfl fun other heq => ?_, .nil⟩
      cases heq
      exact hdelay rfl
  | cancel field =>
    exact ⟨hreflects.cancel rfl rfl fun other => Iff.rfl, hnone rfl nofun, .nil⟩
  | cancelAll => exact ⟨hreflects.cancelAll, hnone rfl nofun, .nil⟩
  | isPending field => exact ⟨hreflects.isPending, hnone rfl nofun, .nil⟩
  | advance ms =>
    obtain ⟨hafter, hran, hsorted⟩ := hreflects.advance ms
    refine ⟨hafter, fun run => (hran run).trans ?_, hsorted⟩
    rw [RunsIn, elapsed_append, or_iff_right (by rintro ⟨_, haction, -⟩; cases haction)]
    rfl

/-- The scheduler after a run holds what the actions tell. -/
theorem reflects_run (actions : List Action) : Reflects actions (run actions).1 := by
  induction actions using List.reverseRecOn with
  | nil => exact .start
  | append_singleton actions action ih =>
    rw [run, Trace.run_append_singleton]
    exact (ih.perform action).1

end FieldRules.Scheduler
