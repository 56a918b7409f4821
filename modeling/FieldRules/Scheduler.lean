import FieldRules.Assoc
import FieldRules.Clock
import FieldRules.Trace

/-!
# One delayed task per field

A task that is scheduled for a field runs after a delay, unless another one is
scheduled for the field before, or it is cancelled.  So of a burst of tasks only
the last one runs.

A scheduled task sleeps until its instant, whatever happens in the meantime.  Each
one has an id, and `waiting` tells which of them is the one that waits for a
field.  A task that wakes up and is not the one that waits has been superseded,
and ends without running.

* `schedule`, `cancel`, `cancelAll`, `isPending`, `pendingCount`, `advance`: what
  can be done with a scheduler.
* `Action`, `perform`, `run`: runs of such actions, in which each task is the
  number of the action that schedules it.
-/

namespace FieldRules

/-- A task that sleeps. -/
structure Sleeper (α : Type) where
  id : Nat
  field : String
  task : α
  deriving DecidableEq, Repr

/-- Tasks that sleep, and the ids of those that wait for a field. -/
structure Scheduler (α : Type) where
  issued : Nat := 0
  waiting : Assoc Nat := []
  clock : Clock (Sleeper α) := {}
  deriving DecidableEq, Repr

namespace Scheduler

variable {α : Type}

/-- A task that has run. -/
structure Run (α : Type) where
  instant : Nat
  task : α
  deriving DecidableEq, Repr

/-! ## Operations -/

/-- Cancels the task that waits for a field; says whether there was one. -/
def cancel (s : Scheduler α) (field : String) : Scheduler α × Bool :=
  ({ s with waiting := s.waiting.drop field }, s.waiting.has field)

/-- Cancels all tasks. -/
def cancelAll (s : Scheduler α) : Scheduler α :=
  { s with waiting := [] }

/-- Whether a task waits for a field. -/
def isPending (s : Scheduler α) (field : String) : Bool :=
  s.waiting.has field

/-- How many fields have a task that waits. -/
def pendingCount (s : Scheduler α) : Nat :=
  s.waiting.length

/-- Schedules a task for a field in place of the one that waits.  Without a delay
the task runs at once. -/
def schedule (s : Scheduler α) (field : String) (delay : Nat) (task : α) :
    Scheduler α × List (Run α) :=
  if delay = 0 then ((s.cancel field).1, [⟨s.clock.now, task⟩])
  else
    ({ issued := s.issued + 1
       waiting := s.waiting.put field s.issued
       clock := s.clock.set none delay ⟨s.issued, field, task⟩ }, [])

/-- Whether a task is the one that waits for its field. -/
def awaits (s : Scheduler α) (sleeper : Sleeper α) : Bool :=
  s.waiting.find? sleeper.field = some sleeper.id

/-- Wakes the tasks whose timers have run out, in turn.  A task that has been
superseded does not run. -/
def wake : Scheduler α → List (Timer (Sleeper α)) → Scheduler α × List (Run α)
  | s, [] => (s, [])
  | s, timer :: rest =>
    if s.awaits timer.event then
      let (s, ran) := wake (s.cancel timer.event.field).1 rest
      (s, ⟨timer.due, timer.event.task⟩ :: ran)
    else wake s rest

/-- Moves the clock on and wakes the tasks whose instant comes. -/
def advance (s : Scheduler α) (ms : Nat) : Scheduler α × List (Run α) :=
  let (clock, due) := s.clock.advance ms
  wake { s with clock } due

/-! ## Runs -/

/-- What can be done with a scheduler. -/
inductive Action where
  | schedule (field : String) (delay : Nat)
  | cancel (field : String)
  | cancelAll
  | isPending (field : String)
  | advance (ms : Nat)
  deriving DecidableEq, Repr

/-- The milliseconds that an action takes. -/
def Action.duration : Action → Nat
  | advance ms => ms
  | _ => 0

/-- What an action shows: its answer, the tasks that run in it, and how many fields
have a task that waits afterwards. -/
structure Outcome where
  answer : Option Bool
  ran : List (Run Nat)
  pending : Nat
  deriving DecidableEq, Repr

/-- Carries out an action; a task is the number of the action that schedules it. -/
def perform (s : Scheduler Nat) (number : Nat) (action : Action) : Scheduler Nat × Outcome :=
  let (s, answer, ran) : Scheduler Nat × Option Bool × List (Run Nat) :=
    match action with
    | .schedule field delay =>
      let (s, ran) := s.schedule field delay number
      (s, none, ran)
    | .cancel field =>
      let (s, cancelled) := s.cancel field
      (s, some cancelled, [])
    | .cancelAll => (s.cancelAll, none, [])
    | .isPending field => (s, some (s.isPending field), [])
    | .advance ms =>
      let (s, ran) := s.advance ms
      (s, none, ran)
  (s, ⟨answer, ran, s.pendingCount⟩)

/-- The scheduler after some actions, and what each of them has shown. -/
def run (actions : List Action) : Scheduler Nat × List Outcome :=
  Trace.run perform {} actions

end Scheduler

end FieldRules
