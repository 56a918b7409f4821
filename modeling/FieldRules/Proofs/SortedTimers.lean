import Mathlib.Data.List.TakeWhile
import FieldRules.Proofs.Changes

/-!
# The order of the timers

The timers of a clock stand in the order in which they run out.  So those that have run
out by an instant come first.

* `Clock.Sorted`: the timers are in order, which setting and taking timers keeps.
* `Reachable.sorted`: the timers of every reachable context are in order.
-/

namespace FieldRules

namespace Clock

variable {α : Type} {clock : Clock α} {timer : Timer α} {timers : List (Timer α)}

/-! ## Timers in order -/

/-- No timer runs out before one that stands in front of it. -/
def Sorted (clock : Clock α) : Prop :=
  clock.timers.Pairwise (·.due ≤ ·.due)

theorem Sorted.sublist (hsorted : clock.Sorted) {timers : List (Timer α)}
    (hsub : timers.Sublist clock.timers) (now : Nat) : Sorted ⟨now, timers⟩ :=
  List.Pairwise.sublist hsub hsorted

theorem pairwise_due_insertTimer (hsorted : timers.Pairwise (·.due ≤ ·.due)) (timer : Timer α) :
    (insertTimer timer timers).Pairwise (·.due ≤ ·.due) := by
  induction timers with
  | nil => exact List.pairwise_singleton _ _
  | cons head rest ih =>
    obtain ⟨hhead, hrest⟩ := List.pairwise_cons.1 hsorted
    rw [insertTimer]
    split
    · rename_i hle
      refine List.pairwise_cons.2 ⟨fun other hmem => ?_, ih hrest⟩
      rcases List.mem_cons.1 ((insertTimer_perm _ _).mem_iff.1 hmem) with rfl | hmem
      · exact hle
      · exact hhead other hmem
    · rename_i hlater
      refine List.pairwise_cons.2 ⟨fun other hmem => ?_, hsorted⟩
      rcases List.mem_cons.1 hmem with rfl | hmem
      · omega
      · have hdue := hhead other hmem
        omega

theorem Sorted.set (hsorted : clock.Sorted) (key : Option String) (delay : Nat) (event : α) :
    (clock.set key delay event).Sorted :=
  pairwise_due_insertTimer hsorted _

theorem Sorted.cancel (hsorted : clock.Sorted) (key : String) : (clock.cancel key).Sorted :=
  hsorted.sublist List.filter_sublist _

/-! ## Timers that have run out -/

/-- The timers that run out by an instant stand before the others. -/
theorem Sorted.due_lt_of_mem_dropWhile (hsorted : clock.Sorted) (instant : Nat) :
    ∀ timer ∈ clock.timers.dropWhile (·.due ≤ instant), instant < timer.due := by
  unfold Sorted at hsorted
  generalize clock.timers = timers at hsorted
  induction timers with
  | nil => exact fun _ hmem => absurd hmem List.not_mem_nil
  | cons head rest ih =>
    obtain ⟨hhead, hrest⟩ := List.pairwise_cons.1 hsorted
    by_cases hdue : head.due ≤ instant
    · rw [List.dropWhile_cons_of_pos (by simpa using hdue)]
      exact ih hrest
    · rw [List.dropWhile_cons_of_neg (by simpa using hdue)]
      intro timer hmem
      rcases List.mem_cons.1 hmem with rfl | hmem
      · omega
      · have hle := hhead timer hmem
        omega

theorem due_le_of_mem_takeWhile {instant : Nat}
    (hmem : timer ∈ timers.takeWhile (·.due ≤ instant)) : timer.due ≤ instant := by
  have hdue := List.mem_takeWhile_imp hmem
  simpa using hdue

end Clock

/-! ## Reachable contexts -/

namespace Context

variable {c : Context}

/-- Every small change keeps the timers in order. -/
theorem kept_sorted : Kept fun c => c.clock.Sorted where
  forms _ hsorted := hsorted
  change hchange hsorted := by
    cases hchange with
    | cancelled hmem => exact hsorted.cancel _
    | delayed hmem delay => exact (hsorted.cancel _).set _ _ _
    | awaited hmem delay results => exact hsorted.set _ _ _
    | fired htimers hmem =>
      refine hsorted.sublist ?_ _
      rw [htimers]
      exact (List.Sublist.refl _).append (List.sublist_cons_self _ _)
    | _ => exact hsorted
  wait _ hsorted := hsorted

/-- The timers of a reachable context are in order. -/
theorem Reachable.sorted (hreach : c.Reachable) : c.clock.Sorted := by
  obtain ⟨translator, config, callbacks, hleads⟩ := hreach
  exact kept_sorted.leads (.start translator config callbacks) .nil hleads

end Context

end FieldRules
