import FieldRules.Clock
import FieldRules.Generations
import FieldRules.Trace

/-!
# Results that arrive later

Work that belongs to a generation of a field is submitted, and its result
arrives after a delay.  The result is applied only if the generation is still
the latest one of the field when it arrives; otherwise it is dropped.
-/

namespace FieldRules

/-- Work whose result will arrive.  Submissions are numbered in the order in
which they are made. -/
structure Submission (α : Type) where
  number : Nat
  field : String
  generation : Nat
  result : α
  deriving DecidableEq, Repr

/-- A submission whose result has arrived, and whether it was applied. -/
structure Arrival (α : Type) where
  submission : Submission α
  applied : Bool
  deriving DecidableEq, Repr

/-- The generations of the fields, and the submissions that are under way. -/
structure Submissions (α : Type) where
  generations : Generations := {}
  clock : Clock (Submission α) := {}
  made : Nat := 0
  deriving DecidableEq, Repr

namespace Submissions

variable {α : Type}

/-! ## Operations -/

/-- The submission, arriving now. -/
def arrive (s : Submissions α) (submission : Submission α) : Arrival α :=
  ⟨submission, s.generations.isCurrent submission.field submission.generation⟩

/-- Submits work for a generation of a field.  The executor runs until all that
it can do before the clock moves is done, so the result of work without a delay
arrives at once; what arrives at once is returned.  If something else is done
while the work has not run yet, as when two submissions are made in one go, the
work has a delay that ends afterwards. -/
def spawn (s : Submissions α) (field : String) (generation delay : Nat) (result : α) :
    Submissions α × List (Arrival α) :=
  let submission : Submission α := ⟨s.made, field, generation, result⟩
  let s := { s with made := s.made + 1 }
  if delay = 0 then (s, [s.arrive submission])
  else ({ s with clock := s.clock.set none delay submission }, [])

/-- Gives a field its next generation. -/
def begin (s : Submissions α) (field : String) : Submissions α × Nat :=
  let (generations, generation) := s.generations.begin field
  ({ s with generations }, generation)

/-- Outdates the generation of a field. -/
def invalidate (s : Submissions α) (field : String) : Submissions α :=
  { s with generations := s.generations.invalidate field }

/-- Leaves a field without a generation. -/
def forget (s : Submissions α) (field : String) : Submissions α :=
  { s with generations := s.generations.forget field }

/-- A result, if its generation is the latest one of its field. -/
def ifCurrent (s : Submissions α) (field : String) (generation : Nat) (result : α) : Option α :=
  s.generations.ifCurrent field generation result

/-- Submits work for the next generation of a field. -/
def submit (s : Submissions α) (field : String) (delay : Nat) (result : α) :
    Submissions α × Nat × List (Arrival α) :=
  let (s, generation) := s.begin field
  let (s, arrivals) := s.spawn field generation delay result
  (s, generation, arrivals)

/-- Moves the clock on and takes the results that arrive by then. -/
def advance (s : Submissions α) (ms : Nat) : Submissions α × List (Arrival α) :=
  let (clock, due) := s.clock.advance ms
  ({ s with clock }, due.map fun timer => s.arrive timer.event)

/-- The results among the arrivals that were applied. -/
def applied (arrivals : List (Arrival α)) : List α :=
  (arrivals.filter (·.applied)).map (·.submission.result)

/-- The arrivals in the order in which their submissions were made. -/
def inOrderMade (arrivals : List (Arrival α)) : List (Arrival α) :=
  arrivals.mergeSort fun a b => a.submission.number ≤ b.submission.number

/-! ## Runs -/

/-- What can be done with submissions. -/
inductive Action where
  | begin (field : String)
  | invalidate (field : String)
  | forget (field : String)
  | submit (field : String) (delay : Nat)
  | spawn (field : String) (generation delay : Nat)
  | ifCurrent (field : String) (generation : Nat)
  | advance (ms : Nat)
  deriving DecidableEq, Repr

/-- The milliseconds that an action takes. -/
def Action.duration : Action → Nat
  | advance ms => ms
  | _ => 0

/-- What an action shows: the generation that it hands out, the result that it
applies itself, and the results that arrive in it. -/
structure Outcome where
  generation : Option Nat := none
  result : Option Nat := none
  arrivals : List (Arrival Nat) := []
  deriving DecidableEq, Repr

/-- Carries out an action; a result is the number of the action that it comes from. -/
def perform (s : Submissions Nat) (number : Nat) : Action → Submissions Nat × Outcome
  | .begin field =>
    let (s, generation) := s.begin field
    (s, { generation := some generation })
  | .invalidate field => (s.invalidate field, {})
  | .forget field => (s.forget field, {})
  | .submit field delay =>
    let (s, generation, arrivals) := s.submit field delay number
    (s, { generation := some generation, arrivals })
  | .spawn field generation delay =>
    let (s, arrivals) := s.spawn field generation delay number
    (s, { arrivals })
  | .ifCurrent field generation => (s, { result := s.ifCurrent field generation number })
  | .advance ms =>
    let (s, arrivals) := s.advance ms
    (s, { arrivals })

/-- The submissions after some actions, and what each of them has shown.  The
executor runs until it is idle in each action, before the next one starts. -/
def run (actions : List Action) : Submissions Nat × List Outcome :=
  Trace.run perform {} actions

end Submissions

end FieldRules
