/-!
# Runs of steps

A machine takes steps one after the other.  Each step shows something, and some
steps take time.  The steps of a run are numbered from 0, and a machine is told
the number of each step that it takes, so that what is set off by one step can be
told apart later.
-/

namespace FieldRules.Trace

variable {σ α ω : Type}

/-- The state after some steps, and what each of them has shown. -/
def run (perform : σ → Nat → α → σ × ω) (start : σ) (steps : List α) : σ × List ω :=
  steps.foldl
    (fun (state, shown) step =>
      let (state, outcome) := perform state shown.length step
      (state, shown ++ [outcome]))
    (start, [])

/-- The time that some steps take. -/
def elapsed (duration : α → Nat) : List α → Nat
  | [] => 0
  | step :: steps => duration step + elapsed duration steps

/-- The instant at which the step of a number is taken. -/
def instantAt (duration : α → Nat) (steps : List α) (number : Nat) : Nat :=
  elapsed duration (steps.take number)

end FieldRules.Trace
