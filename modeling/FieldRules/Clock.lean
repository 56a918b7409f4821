/-!
# A clock with timers

Time is a number of milliseconds that moves only when the clock is advanced.
Timers wait for an instant, each with an event.  They are kept in the order in
which they run out, and those of one instant in the order in which they were
set.

A timer may have a key.  At most one timer waits for a key: setting another one
replaces it, so that of several events in a row only the last one happens.
-/

namespace FieldRules

/-- An event that waits for an instant. -/
structure Timer (α : Type) where
  due : Nat
  key : Option String
  event : α
  deriving DecidableEq, Repr

/-- The present instant and the timers that have not run out. -/
structure Clock (α : Type) where
  now : Nat := 0
  timers : List (Timer α) := []
  deriving DecidableEq, Repr

namespace Clock

variable {α : Type}

/-! ## Setting timers -/

/-- The timers with one more, which comes after all that run out no later. -/
def insertTimer (timer : Timer α) : List (Timer α) → List (Timer α)
  | [] => [timer]
  | head :: rest =>
    if head.due ≤ timer.due then head :: insertTimer timer rest else timer :: head :: rest

/-- Sets a timer. -/
def set (clock : Clock α) (key : Option String) (delay : Nat) (event : α) : Clock α :=
  { clock with timers := insertTimer ⟨clock.now + delay, key, event⟩ clock.timers }

/-- Removes the timer of a key. -/
def cancel (clock : Clock α) (key : String) : Clock α :=
  { clock with timers := clock.timers.filter (·.key ≠ some key) }

/-- Removes the timers of all keys. -/
def cancelAll (clock : Clock α) : Clock α :=
  { clock with timers := clock.timers.filter (·.key.isNone) }

/-- Whether a timer waits for a key. -/
def isPending (clock : Clock α) (key : String) : Bool :=
  clock.timers.any (·.key = some key)

/-- How many keys have a timer. -/
def pendingCount (clock : Clock α) : Nat :=
  clock.timers.countP (·.key.isSome)

/-- Sets the timer of a key in place of the one that it has.  Without a delay
the event happens at once; what happens at once is returned. -/
def schedule (clock : Clock α) (key : String) (delay : Nat) (event : α) :
    Clock α × List α :=
  if delay = 0 then (clock.cancel key, [event])
  else ((clock.cancel key).set (some key) delay event, [])

/-! ## Moving on -/

/-- Moves the clock to an instant and takes the timers that have run out by then. -/
def moveTo (clock : Clock α) (instant : Nat) : Clock α × List (Timer α) :=
  (⟨instant, clock.timers.dropWhile (·.due ≤ instant)⟩,
    clock.timers.takeWhile (·.due ≤ instant))

/-- The next instant at which an event is due. -/
def nextDue? (clock : Clock α) : Option Nat :=
  clock.timers.head?.map (·.due)

/-- Moves the clock on by some milliseconds and takes the timers that have run
out by then. -/
def advance (clock : Clock α) (ms : Nat) : Clock α × List (Timer α) :=
  clock.moveTo (clock.now + ms)

end Clock

end FieldRules
