import Mathlib.Logic.ExistsUnique
import FieldRules.Proofs.Traces

/-!
# Histories of lists

The actions of a history change a list of names.  An action may take names out of the
list or put one name at its end, but moves none.

* `Lasts`: an action has been taken and not been undone since.
* `EnteredAt`: the action with which a name has entered the list for the last time.
* `existsUnique_enteredAt`: there is one such action for each name that is listed.
* `Grows`: what one more action may do to the list.
* `pairwise_precedes`: the names stand in the order in which they have entered.
-/

namespace FieldRules.Listing

variable {α : Type} {listed : List α → List String} {actions : List α} {action : α}
  {name : String} {number other : Nat}

/-! ## What lasts -/

/-- An action that does something has been taken, and none that undoes it since. -/
def Lasts (does undoes : α → Prop) (actions : List α) : Prop :=
  ∃ before action after, actions = before ++ action :: after ∧ does action ∧
    ∀ later ∈ after, ¬ undoes later

theorem not_lasts_nil (does undoes : α → Prop) : ¬ Lasts does undoes [] := by
  rintro ⟨before, action, after, hactions, -⟩
  simp at hactions

theorem lasts_append_iff {does undoes : α → Prop} :
    Lasts does undoes (actions ++ [action]) ↔
      does action ∨ Lasts does undoes actions ∧ ¬ undoes action := by
  constructor
  · rintro ⟨before, first, after, hactions, hdoes, hlater⟩
    cases after using List.reverseRecOn with
    | nil =>
      obtain ⟨-, hlast⟩ := List.append_inj' hactions rfl
      cases hlast
      exact .inl hdoes
    | append_singleton after last =>
      rw [← List.cons_append, ← List.append_assoc] at hactions
      obtain ⟨rfl, hlast⟩ := List.append_inj' hactions rfl
      cases hlast
      refine .inr ⟨⟨before, first, after, rfl, hdoes, fun later hmem => ?_⟩, ?_⟩
      · exact hlater later (List.mem_append_left _ hmem)
      · exact hlater action (by simp)
  · rintro (hdoes | ⟨⟨before, first, after, rfl, hdoes, hlater⟩, hnot⟩)
    · exact ⟨actions, action, [], rfl, hdoes, fun later hmem => by cases hmem⟩
    · refine ⟨before, first, after ++ [action], by simp, hdoes, ?_⟩
      rw [List.forall_mem_append, List.forall_mem_singleton]
      exact ⟨hlater, hnot⟩

/-! ## When names have entered -/

/-- The name was not listed before the action of this number, and has been listed ever
since. -/
structure EnteredAt (listed : List α → List String) (actions : List α) (name : String)
    (number : Nat) : Prop where
  lt_length : number < actions.length
  before : name ∉ listed (actions.take number)
  since : ∀ count, number < count → count ≤ actions.length → name ∈ listed (actions.take count)

namespace EnteredAt

theorem mem (hentered : EnteredAt listed actions name number) : name ∈ listed actions := by
  have hmem := hentered.since actions.length hentered.lt_length (Nat.le_refl _)
  rwa [List.take_length] at hmem

/-- A name that has been listed ever since one action is listed before any later one. -/
theorem not_lt (hentered : EnteredAt listed actions name number)
    (hother : EnteredAt listed actions name other) : ¬ number < other :=
  fun hlt => hother.before (hentered.since other hlt (Nat.le_of_lt hother.lt_length))

theorem unique (hentered : EnteredAt listed actions name number)
    (hother : EnteredAt listed actions name other) : number = other :=
  Nat.le_antisymm (Nat.le_of_not_lt (hother.not_lt hentered))
    (Nat.le_of_not_lt (hentered.not_lt hother))

/-- The action with which the name has entered, and what it did. -/
theorem exists_action (hentered : EnteredAt listed actions name number) :
    ∃ action, actions[number]? = some action ∧ name ∉ listed (actions.take number) ∧
      name ∈ listed (actions.take number ++ [action]) := by
  have haction := List.getElem?_eq_getElem hentered.lt_length
  have hmem := hentered.since (number + 1) (Nat.lt_succ_self _) hentered.lt_length
  rw [Trace.take_succ_of_getElem? haction] at hmem
  exact ⟨_, haction, hentered.before, hmem⟩

/-- A name that stays has entered when it had before. -/
theorem append (hentered : EnteredAt listed actions name number)
    (hmem : name ∈ listed (actions ++ [action])) :
    EnteredAt listed (actions ++ [action]) name number := by
  have hlt := hentered.lt_length
  refine ⟨by rw [List.length_append]; omega, ?_, fun count hcount hle => ?_⟩
  · rw [List.take_append_of_le_length (Nat.le_of_lt hlt)]
    exact hentered.before
  · by_cases hold : count ≤ actions.length
    · rw [List.take_append_of_le_length hold]
      exact hentered.since count hcount hold
    · rw [List.length_append, List.length_singleton] at hle
      rwa [List.take_of_length_le (by rw [List.length_append, List.length_singleton]; omega)]

end EnteredAt

/-- A name that is new has entered with the last action. -/
theorem enteredAt_length (hnot : name ∉ listed actions)
    (hmem : name ∈ listed (actions ++ [action])) :
    EnteredAt listed (actions ++ [action]) name actions.length := by
  refine ⟨by simp, by rwa [List.take_left], fun count hcount hle => ?_⟩
  rwa [List.take_of_length_le (by rw [List.length_append, List.length_singleton]; omega)]

theorem exists_enteredAt (hempty : listed [] = []) (hmem : name ∈ listed actions) :
    ∃ number, EnteredAt listed actions name number := by
  induction actions using List.reverseRecOn with
  | nil =>
    rw [hempty] at hmem
    cases hmem
  | append_singleton actions action ih =>
    by_cases hold : name ∈ listed actions
    · obtain ⟨number, hentered⟩ := ih hold
      exact ⟨number, hentered.append hmem⟩
    · exact ⟨actions.length, enteredAt_length hold hmem⟩

/-- A listed name has entered once for the last time. -/
theorem existsUnique_enteredAt (hempty : listed [] = []) (hmem : name ∈ listed actions) :
    ∃! number, EnteredAt listed actions name number := by
  obtain ⟨number, hentered⟩ := exists_enteredAt hempty hmem
  exact ⟨number, hentered, fun other hother => hother.unique hentered⟩

/-- A name that was listed before the last action has entered before it. -/
theorem EnteredAt.of_append (hentered : EnteredAt listed (actions ++ [action]) name number)
    (hempty : listed [] = []) (hold : name ∈ listed actions) :
    EnteredAt listed actions name number := by
  obtain ⟨other, hother⟩ := exists_enteredAt hempty hold
  rwa [hentered.unique (hother.append hentered.mem)]

/-! ## The order of the names -/

/-- One more action takes names out of the list, or puts a new one at its end. -/
def Grows (listed : List α → List String) : Prop :=
  ∀ actions action, (listed (actions ++ [action])).Sublist (listed actions) ∨
    ∃ name ∉ listed actions, listed (actions ++ [action]) = listed actions ++ [name]

/-- The first name has entered the list before the second one. -/
def Precedes (listed : List α → List String) (actions : List α) (first second : String) : Prop :=
  ∀ number other, EnteredAt listed actions first number → EnteredAt listed actions second other →
    number < other

theorem Precedes.append {first second : String}
    (hprecedes : Precedes listed actions first second) (hempty : listed [] = [])
    (hfirst : first ∈ listed actions) (hsecond : second ∈ listed actions) :
    Precedes listed (actions ++ [action]) first second :=
  fun number other hnumber hother =>
    hprecedes number other (hnumber.of_append hempty hfirst) (hother.of_append hempty hsecond)

theorem pairwise_precedes (hempty : listed [] = []) (hgrows : Grows listed) (actions : List α) :
    (listed actions).Pairwise (Precedes listed actions) := by
  induction actions using List.reverseRecOn with
  | nil =>
    rw [hempty]
    exact .nil
  | append_singleton actions action ih =>
    rcases hgrows actions action with hsublist | ⟨name, hnot, hlisted⟩
    · refine (ih.sublist hsublist).imp_of_mem fun hfirst hsecond hprecedes => ?_
      exact hprecedes.append hempty (hsublist.subset hfirst) (hsublist.subset hsecond)
    · rw [hlisted, List.pairwise_append]
      refine ⟨ih.imp_of_mem fun hfirst hsecond hprecedes => ?_, List.pairwise_singleton _ _, ?_⟩
      · exact hprecedes.append hempty hfirst hsecond
      · intro first hfirst second hsecond number other hnumber hother
        rw [List.mem_singleton] at hsecond
        subst hsecond
        rw [hother.unique (enteredAt_length hnot hother.mem)]
        exact (hnumber.of_append hempty hfirst).lt_length

end FieldRules.Listing
