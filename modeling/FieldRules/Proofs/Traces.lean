import Mathlib.Data.List.Induction
import FieldRules.Trace
import FieldRules.Proofs.Clock

/-!
# Runs, and the timers that are set in them

Runs are looked at from their ends: each lemma on `Trace.run` says what one more
step does.

* `Trace.getElem?_run`: what a step shows depends on the steps before it.
* `Trace.instantAt_le_elapsed` and its like: when the steps are taken.
* `Clock.Keeps`: a clock of which no timer is cancelled holds the timers that have
  been set and have not run out, by their instants, and those of one instant in the
  order in which they were set.
-/

namespace FieldRules

/-! ## Runs -/

namespace Trace

variable {σ α ω : Type} {perform : σ → Nat → α → σ × ω} {start : σ} {duration : α → Nat}
  {steps : List α} {step : α} {number : Nat}

theorem getElem?_append_singleton :
    (steps ++ [step])[number]? =
      if number < steps.length then steps[number]?
      else if number = steps.length then some step else none := by
  split
  · rename_i hlt
    exact List.getElem?_append_left hlt
  · rename_i hge
    rw [List.getElem?_append_right (Nat.le_of_not_lt hge)]
    split
    · rename_i heq
      rw [heq, Nat.sub_self]
      rfl
    · rw [List.getElem?_eq_none]
      simp only [List.length_singleton]
      omega

theorem lt_length_of_getElem? (hstep : steps[number]? = some step) : number < steps.length :=
  (List.getElem?_eq_some_iff.1 hstep).1

theorem length_take_of_getElem? (hstep : steps[number]? = some step) :
    (steps.take number).length = number :=
  List.length_take_of_le (Nat.le_of_lt (lt_length_of_getElem? hstep))

theorem take_succ_of_getElem? (hstep : steps[number]? = some step) :
    steps.take (number + 1) = steps.take number ++ [step] := by
  rw [List.take_add_one, hstep, Option.toList_some]

theorem length_run (perform : σ → Nat → α → σ × ω) (start : σ) (steps : List α) :
    (run perform start steps).2.length = steps.length := by
  induction steps using List.reverseRecOn with
  | nil => rfl
  | append_singleton steps step ih =>
    rw [run, List.foldl_append, List.foldl_cons, List.foldl_nil, ← run]
    dsimp only
    rw [List.length_append, List.length_append, ih]
    rfl

theorem run_append_singleton (perform : σ → Nat → α → σ × ω) (start : σ) (steps : List α)
    (step : α) :
    run perform start (steps ++ [step]) =
      ((perform (run perform start steps).1 steps.length step).1,
        (run perform start steps).2 ++
          [(perform (run perform start steps).1 steps.length step).2]) := by
  rw [← length_run perform start steps]
  rw [run, List.foldl_append, List.foldl_cons, List.foldl_nil, ← run]

/-- What a step shows depends on the steps before it. -/
theorem getElem?_run (perform : σ → Nat → α → σ × ω) (start : σ)
    (hstep : steps[number]? = some step) :
    (run perform start steps).2[number]? =
      some (perform (run perform start (steps.take number)).1 (steps.take number).length step).2 := by
  induction steps using List.reverseRecOn with
  | nil => cases hstep
  | append_singleton steps last ih =>
    rw [run_append_singleton]
    rw [getElem?_append_singleton] at hstep
    split at hstep
    · rename_i hlt
      rw [List.getElem?_append_left (by rwa [length_run]), ih hstep,
        List.take_append_of_le_length (Nat.le_of_lt hlt)]
    · split at hstep
      · rename_i heq
        cases hstep
        rw [heq, List.getElem?_append_right (Nat.le_of_eq (length_run _ _ _)), length_run,
          Nat.sub_self, List.take_left]
        rfl
      · cases hstep

theorem outcome_eq {outcome : ω} (hstep : steps[number]? = some step)
    (houtcome : (run perform start steps).2[number]? = some outcome) :
    outcome =
      (perform (run perform start (steps.take number)).1 (steps.take number).length step).2 := by
  rw [getElem?_run _ _ hstep] at houtcome
  exact (Option.some.inj houtcome).symm

/-- Whatever is shown is shown by a step. -/
theorem exists_step {outcome : ω} (houtcome : (run perform start steps).2[number]? = some outcome) :
    ∃ step, steps[number]? = some step := by
  have hlt := lt_length_of_getElem? houtcome
  rw [length_run] at hlt
  exact ⟨_, List.getElem?_eq_getElem hlt⟩

/-! ## Instants -/

theorem elapsed_append (duration : α → Nat) (steps more : List α) :
    elapsed duration (steps ++ more) = elapsed duration steps + elapsed duration more := by
  induction steps with
  | nil => exact (Nat.zero_add _).symm
  | cons step steps ih => rw [List.cons_append, elapsed, elapsed, ih, Nat.add_assoc]

theorem elapsed_append_singleton (duration : α → Nat) (steps : List α) (step : α) :
    elapsed duration (steps ++ [step]) = elapsed duration steps + duration step :=
  elapsed_append duration steps [step]

theorem instantAt_append (duration : α → Nat) (hle : number ≤ steps.length) (more : List α) :
    instantAt duration (steps ++ more) number = instantAt duration steps number := by
  rw [instantAt, instantAt, List.take_append_of_le_length hle]

theorem instantAt_length (duration : α → Nat) (steps more : List α) :
    instantAt duration (steps ++ more) steps.length = elapsed duration steps := by
  rw [instantAt, List.take_left]

theorem instantAt_le_elapsed (duration : α → Nat) (steps : List α) (number : Nat) :
    instantAt duration steps number ≤ elapsed duration steps := by
  have hsplit : elapsed duration steps =
      instantAt duration steps number + elapsed duration (steps.drop number) := by
    rw [instantAt, ← elapsed_append, List.take_append_drop]
  omega

theorem instantAt_take (duration : α → Nat) (steps : List α) {count : Nat} (hle : number ≤ count) :
    instantAt duration (steps.take count) number = instantAt duration steps number := by
  rw [instantAt, instantAt, List.take_take, Nat.min_eq_left hle]

theorem instantAt_mono (duration : α → Nat) (steps : List α) {first second : Nat}
    (hle : first ≤ second) : instantAt duration steps first ≤ instantAt duration steps second := by
  rw [← instantAt_take duration steps hle]
  exact instantAt_le_elapsed _ _ _

end Trace

/-! ## Timers in order -/

namespace Clock

variable {α : Type} {index : α → Nat} {IsSet : Timer α → Prop} {clock : Clock α}

/-- A timer runs out before another one: at an earlier instant, or at the same one
and with a lower index. -/
def Precedes (index : α → Nat) (a b : Timer α) : Prop :=
  a.due < b.due ∨ a.due = b.due ∧ index a.event < index b.event

/-- The timers of the clock are those that have been set and have not run out, in
order. -/
structure Keeps (clock : Clock α) (index : α → Nat) (IsSet : Timer α → Prop) : Prop where
  mem_iff : ∀ timer, timer ∈ clock.timers ↔ IsSet timer ∧ clock.now < timer.due
  sorted : clock.timers.Pairwise (Precedes index)

theorem Keeps.empty (index : α → Nat) (hnone : ∀ timer, ¬ IsSet timer) :
    Keeps (α := α) {} index IsSet where
  mem_iff timer := by simp [hnone timer]
  sorted := .nil

theorem Keeps.congr {IsSet' : Timer α → Prop} (hkeeps : clock.Keeps index IsSet)
    (hiff : ∀ timer, IsSet' timer ↔ IsSet timer) : clock.Keeps index IsSet' where
  mem_iff timer := by rw [hiff, hkeeps.mem_iff]
  sorted := hkeeps.sorted

/-- A timer of the highest index is put behind all that run out no later. -/
theorem pairwise_insertTimer {timer : Timer α} {timers : List (Timer α)}
    (hsorted : timers.Pairwise (Precedes index))
    (hlast : ∀ other ∈ timers, index other.event < index timer.event) :
    (insertTimer timer timers).Pairwise (Precedes index) := by
  induction timers with
  | nil => exact List.pairwise_singleton _ _
  | cons head rest ih =>
    obtain ⟨hhead, hrest⟩ := List.pairwise_cons.1 hsorted
    have hlt := hlast head List.mem_cons_self
    rw [insertTimer]
    split
    · rename_i hle
      refine List.pairwise_cons.2 ⟨fun other hmem => ?_,
        ih hrest fun other hmem => hlast other (List.mem_cons_of_mem _ hmem)⟩
      rcases List.mem_cons.1 ((insertTimer_perm _ _).mem_iff.1 hmem) with rfl | hmem
      · exact (Nat.lt_or_eq_of_le hle).imp id fun heq => ⟨heq, hlt⟩
      · exact hhead other hmem
    · rename_i hlater
      refine List.pairwise_cons.2 ⟨fun other hmem => .inl ?_, hsorted⟩
      have hdue : timer.due < head.due := Nat.lt_of_not_le hlater
      rcases List.mem_cons.1 hmem with rfl | hmem
      · exact hdue
      · rcases hhead other hmem with h | ⟨h, -⟩ <;> omega

/-- One more timer is set, with the highest index of all. -/
theorem Keeps.set (hkeeps : clock.Keeps index IsSet) {delay : Nat} (hdelay : delay ≠ 0) {event : α}
    (hlast : ∀ timer, IsSet timer → index timer.event < index event) :
    (clock.set none delay event).Keeps index
      fun timer => IsSet timer ∨ timer = ⟨clock.now + delay, none, event⟩ where
  mem_iff timer := by
    have hnow : (clock.set none delay event).now = clock.now := rfl
    rw [hnow, Clock.set, (insertTimer_perm _ _).mem_iff, List.mem_cons, hkeeps.mem_iff, or_and_right,
      or_comm]
    refine or_congr_right (iff_self_and.2 ?_)
    rintro rfl
    exact Nat.lt_add_of_pos_right (Nat.pos_of_ne_zero hdelay)
  sorted := pairwise_insertTimer hkeeps.sorted fun other hmem =>
    hlast other ((hkeeps.mem_iff other).1 hmem).1

/-- The timers that run out by an instant stand before the others. -/
theorem takeWhile_due_eq_filter {timers : List (Timer α)}
    (hsorted : timers.Pairwise (Precedes index)) (instant : Nat) :
    timers.takeWhile (·.due ≤ instant) = timers.filter (·.due ≤ instant) := by
  induction timers with
  | nil => rfl
  | cons head rest ih =>
    obtain ⟨hhead, hrest⟩ := List.pairwise_cons.1 hsorted
    by_cases hdue : head.due ≤ instant
    · rw [List.takeWhile_cons_of_pos (by simpa using hdue),
        List.filter_cons_of_pos (by simpa using hdue), ih hrest]
    · rw [List.takeWhile_cons_of_neg (by simpa using hdue), eq_comm, List.filter_eq_nil_iff]
      intro timer hmem
      rw [decide_eq_true_iff]
      rcases List.mem_cons.1 hmem with rfl | hmem
      · exact hdue
      · rcases hhead timer hmem with h | ⟨h, -⟩ <;> omega

theorem dropWhile_due_eq_filter {timers : List (Timer α)}
    (hsorted : timers.Pairwise (Precedes index)) (instant : Nat) :
    timers.dropWhile (·.due ≤ instant) = timers.filter (instant < ·.due) := by
  induction timers with
  | nil => rfl
  | cons head rest ih =>
    obtain ⟨hhead, hrest⟩ := List.pairwise_cons.1 hsorted
    by_cases hdue : head.due ≤ instant
    · rw [List.dropWhile_cons_of_pos (by simpa using hdue),
        List.filter_cons_of_neg (by simpa using hdue), ih hrest]
    · rw [List.dropWhile_cons_of_neg (by simpa using hdue), eq_comm, List.filter_eq_self]
      intro timer hmem
      rw [decide_eq_true_iff]
      rcases List.mem_cons.1 hmem with rfl | hmem
      · exact Nat.lt_of_not_le hdue
      · rcases hhead timer hmem with h | ⟨h, -⟩ <;> omega

theorem advance_eq (hsorted : clock.timers.Pairwise (Precedes index)) (ms : Nat) :
    clock.advance ms =
      (⟨clock.now + ms, clock.timers.filter (clock.now + ms < ·.due)⟩,
        clock.timers.filter (·.due ≤ clock.now + ms)) := by
  rw [Clock.advance, moveTo, dropWhile_due_eq_filter hsorted, takeWhile_due_eq_filter hsorted]

/-- As the clock moves on, the timers run out whose instants come. -/
theorem Keeps.advance (hkeeps : clock.Keeps index IsSet) (ms : Nat) :
    (clock.advance ms).1.Keeps index IsSet ∧
      (∀ timer, timer ∈ (clock.advance ms).2 ↔
        IsSet timer ∧ clock.now < timer.due ∧ timer.due ≤ clock.now + ms) ∧
      (clock.advance ms).2.Pairwise (Precedes index) := by
  rw [advance_eq hkeeps.sorted]
  refine ⟨⟨fun timer => ?_, hkeeps.sorted.sublist List.filter_sublist⟩, fun timer => ?_,
    hkeeps.sorted.sublist List.filter_sublist⟩
  · rw [List.mem_filter, decide_eq_true_iff, hkeeps.mem_iff, and_assoc]
    refine and_congr_right fun _ => ⟨And.right, fun hlater => ⟨?_, hlater⟩⟩
    exact Nat.lt_of_le_of_lt (Nat.le_add_right _ _) hlater
  · rw [List.mem_filter, decide_eq_true_iff, hkeeps.mem_iff, and_assoc]

end Clock

end FieldRules
