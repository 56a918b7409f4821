import Mathlib.Data.List.Nodup
import FieldRules.Context.Basic

/-!
# The timers of a context

A timer of a context either waits with the evaluation of a field, and then the
field is its key, or it waits for the replies to an inquiry and has no key.

* `filter_insertTimer`: a timer has the same place among some of the timers as among
  all of them.
* `isPending_cancel_self`, `isPending_set` and their like: for which keys a
  timer waits.
* `inquiries`: the inquiries that are waited for.  Timers with a key do not
  matter to them.
* `Clock.Sound`: every timer has the key that belongs to its event, and no key
  has two timers.
-/

namespace FieldRules

/-! ## Timers by their keys -/

namespace Clock

variable {α : Type} {key other : String}

/-- A timer is set somewhere between the others. -/
theorem insertTimer_eq_append (timer : Timer α) (timers : List (Timer α)) :
    ∃ before after, timers = before ++ after ∧
      insertTimer timer timers = before ++ timer :: after := by
  induction timers with
  | nil => exact ⟨[], [], rfl, rfl⟩
  | cons head rest ih =>
    rw [insertTimer]
    split
    · obtain ⟨before, after, hrest, hinsert⟩ := ih
      exact ⟨head :: before, after, by rw [hrest, List.cons_append],
        by rw [hinsert, List.cons_append]⟩
    · exact ⟨[], head :: rest, rfl, rfl⟩

theorem insertTimer_perm (timer : Timer α) (timers : List (Timer α)) :
    (insertTimer timer timers).Perm (timer :: timers) := by
  obtain ⟨before, after, htimers, hinsert⟩ := insertTimer_eq_append timer timers
  rw [hinsert, htimers]
  exact List.perm_middle

variable {β : Type} {timer : Timer α} {timers : List (Timer α)}

theorem insertTimer_of_lt (hlt : ∀ other ∈ timers, timer.due < other.due) :
    insertTimer timer timers = timer :: timers := by
  cases timers with
  | nil => rfl
  | cons head rest => rw [insertTimer, if_neg (Nat.not_le.2 (hlt head List.mem_cons_self))]

/-- A timer that is kept is put in the same place among those that are kept. -/
theorem filter_insertTimer (hsorted : timers.Pairwise (·.due ≤ ·.due))
    {keeps : Timer α → Bool} (hkeeps : keeps timer = true) :
    (insertTimer timer timers).filter keeps = insertTimer timer (timers.filter keeps) := by
  induction timers with
  | nil => exact List.filter_cons_of_pos hkeeps
  | cons head rest ih =>
    obtain ⟨hhead, hrest⟩ := List.pairwise_cons.1 hsorted
    rw [insertTimer]
    split
    · rename_i hle
      rw [List.filter_cons, List.filter_cons, ih hrest]
      split
      · rw [insertTimer, if_pos hle]
      · rfl
    · rename_i hlater
      have hdue : timer.due < head.due := Nat.lt_of_not_le hlater
      rw [List.filter_cons_of_pos hkeeps, insertTimer_of_lt]
      intro other hmem
      rcases List.mem_cons.1 (List.mem_of_mem_filter hmem) with rfl | hmem
      · exact hdue
      · exact Nat.lt_of_lt_of_le hdue (hhead other hmem)

/-- A timer that is left out has no effect on the others. -/
theorem filter_insertTimer_of_not {keeps : Timer α → Bool} (hnot : keeps timer = false)
    (timers : List (Timer α)) : (insertTimer timer timers).filter keeps = timers.filter keeps := by
  obtain ⟨before, after, htimers, hinsert⟩ := insertTimer_eq_append timer timers
  rw [hinsert, htimers, List.filter_append, List.filter_append,
    List.filter_cons_of_neg (by simp [hnot])]

/-- The timers may be described by others that run out in the same order. -/
theorem map_insertTimer {f : Timer α → Timer β}
    (hle : ∀ head ∈ timers, (f head).due ≤ (f timer).due ↔ head.due ≤ timer.due) :
    (insertTimer timer timers).map f = insertTimer (f timer) (timers.map f) := by
  induction timers with
  | nil => rfl
  | cons head rest ih =>
    have hrest := ih fun other hmem => hle other (List.mem_cons_of_mem _ hmem)
    rw [insertTimer, List.map_cons, insertTimer]
    simp only [hle head List.mem_cons_self]
    split
    · rw [List.map_cons, hrest]
    · rfl

theorem isPending_cancel_self (clock : Clock α) (key : String) :
    (clock.cancel key).isPending key = false := by
  simp [cancel, isPending]

theorem isPending_cancel_of_ne (clock : Clock α) (hne : key ≠ other) :
    (clock.cancel key).isPending other = clock.isPending other := by
  rw [Bool.eq_iff_iff]
  simp only [cancel, isPending, List.any_eq_true, List.mem_filter, decide_eq_true_eq]
  constructor
  · rintro ⟨timer, ⟨hmem, -⟩, hkey⟩
    exact ⟨timer, hmem, hkey⟩
  · rintro ⟨timer, hmem, hkey⟩
    refine ⟨timer, ⟨hmem, ?_⟩, hkey⟩
    rw [hkey]
    simpa using Ne.symm hne

theorem isPending_set (clock : Clock α) (key : Option String) (delay : Nat) (event : α)
    (other : String) :
    (clock.set key delay event).isPending other =
      (decide (key = some other) || clock.isPending other) := by
  unfold set isPending
  rw [(insertTimer_perm _ _).any_eq, List.any_cons]

theorem isPending_append (now : Nat) (before after : List (Timer α)) (key : String) :
    isPending ⟨now, before ++ after⟩ key =
      (before.any (·.key = some key) || after.any (·.key = some key)) :=
  List.any_append

end Clock

/-! ## The inquiries that are waited for -/

/-- The inquiry whose replies a timer without a key waits for. -/
def Timer.inquiry? : Timer Event → Option Inquiry
  | ⟨_, none, .reply inquiry _⟩ => some inquiry
  | _ => none

theorem Timer.inquiry?_of_key {timer : Timer Event} {key : String} (hkey : timer.key = some key) :
    timer.inquiry? = none := by
  obtain ⟨due, _, event⟩ := timer
  subst hkey
  rfl

/-- The key that belongs to an event. -/
def Event.key? : Event → Option String
  | evaluate field => some field
  | reply _ _ => none

namespace Clock

variable {key other : String}

/-- The inquiries whose replies are waited for. -/
def inquiries (clock : Clock Event) : List Inquiry :=
  clock.timers.filterMap (·.inquiry?)

theorem inquiries_cancel (clock : Clock Event) (key : String) :
    (clock.cancel key).inquiries = clock.inquiries := by
  unfold cancel inquiries
  induction clock.timers with
  | nil => rfl
  | cons head rest ih =>
    by_cases hkey : head.key = some key
    · rw [List.filter_cons_of_neg (by simp [hkey]), ih,
        List.filterMap_cons_none (Timer.inquiry?_of_key hkey)]
    · rw [List.filter_cons_of_pos (by simp [hkey]), List.filterMap_cons, List.filterMap_cons, ih]

theorem inquiries_set_reply (clock : Clock Event) (delay : Nat) (inquiry : Inquiry)
    (results : Results) :
    (clock.set none delay (.reply inquiry results)).inquiries.Perm
      (inquiry :: clock.inquiries) :=
  (insertTimer_perm _ _).filterMap _

theorem inquiries_set_key (clock : Clock Event) (key : String) (delay : Nat) (event : Event) :
    (clock.set (some key) delay event).inquiries.Perm clock.inquiries :=
  (insertTimer_perm _ _).filterMap _

/-! ## Keys and events agree -/

/-- Every timer has the key of its event, and no key has two timers. -/
structure Sound (clock : Clock Event) : Prop where
  key_eq : ∀ timer ∈ clock.timers, timer.key = timer.event.key?
  nodup : (clock.timers.filterMap (·.key)).Nodup

theorem Sound.empty : Sound {} where
  key_eq := by simp
  nodup := List.nodup_nil

theorem Sound.sublist {clock : Clock Event} (hsound : clock.Sound) {timers : List (Timer Event)}
    (hsub : timers.Sublist clock.timers) (now : Nat) : Sound ⟨now, timers⟩ where
  key_eq timer hmem := hsound.key_eq timer (hsub.subset hmem)
  nodup := (hsub.filterMap _).nodup hsound.nodup

theorem Sound.cancel {clock : Clock Event} (hsound : clock.Sound) (key : String) :
    (clock.cancel key).Sound :=
  hsound.sublist List.filter_sublist clock.now

theorem Sound.set_reply {clock : Clock Event} (hsound : clock.Sound) (delay : Nat)
    (inquiry : Inquiry) (results : Results) :
    (clock.set none delay (.reply inquiry results)).Sound where
  key_eq timer hmem := by
    rcases List.mem_cons.1 ((insertTimer_perm _ _).mem_iff.1 hmem) with rfl | hmem
    · rfl
    · exact hsound.key_eq timer hmem
  nodup := ((insertTimer_perm _ _).filterMap _).nodup_iff.2 hsound.nodup

/-- The timer of a key is set once the one that it had is cancelled. -/
theorem Sound.set_evaluate {clock : Clock Event} (hsound : clock.Sound) (field : String)
    (delay : Nat) : ((clock.cancel field).set (some field) delay (.evaluate field)).Sound where
  key_eq timer hmem := by
    rcases List.mem_cons.1 ((insertTimer_perm _ _).mem_iff.1 hmem) with rfl | hmem
    · rfl
    · exact (hsound.cancel field).key_eq timer hmem
  nodup := by
    refine ((insertTimer_perm _ _).filterMap _).nodup_iff.2 ?_
    simp only [List.filterMap_cons, List.nodup_cons]
    refine ⟨?_, (hsound.cancel field).nodup⟩
    intro hmem
    obtain ⟨timer, htimer, hkey⟩ := List.mem_filterMap.1 hmem
    have hnot := isPending_cancel_self clock field
    rw [isPending, List.any_eq_false] at hnot
    exact hnot timer htimer (by simpa using hkey)

/-! ## Taking a timer -/

section Take

variable {clock : Clock Event} {before after : List (Timer Event)} {timer : Timer Event}

theorem Sound.take (hsound : clock.Sound) (htimers : clock.timers = before ++ timer :: after)
    (now : Nat) : Sound ⟨now, before ++ after⟩ := by
  refine hsound.sublist ?_ now
  rw [htimers]
  exact (List.Sublist.refl before).append (List.sublist_cons_self timer after)

/-- Without its timer, the evaluation of a field does not wait any longer. -/
theorem isPending_take_self (hsound : clock.Sound)
    (htimers : clock.timers = before ++ timer :: after) (hkey : timer.key = some key) (now : Nat) :
    isPending ⟨now, before ++ after⟩ key = false := by
  have hnodup := hsound.nodup
  rw [htimers, List.filterMap_append, List.filterMap_cons_some hkey, List.nodup_append,
    List.nodup_cons] at hnodup
  obtain ⟨-, ⟨hafter, -⟩, hbefore⟩ := hnodup
  rw [isPending, List.any_eq_false]
  intro other hmem
  rw [decide_eq_true_iff]
  intro hother
  rcases List.mem_append.1 hmem with hmem | hmem
  · exact hbefore key (List.mem_filterMap.2 ⟨other, hmem, hother⟩) key List.mem_cons_self rfl
  · exact hafter (List.mem_filterMap.2 ⟨other, hmem, hother⟩)

theorem isPending_take_of_ne (htimers : clock.timers = before ++ timer :: after)
    (hne : timer.key ≠ some other) (now : Nat) :
    isPending ⟨now, before ++ after⟩ other = clock.isPending other := by
  rw [isPending_append, isPending, htimers, List.any_append, List.any_cons]
  simp [hne]

theorem inquiries_take_key (htimers : clock.timers = before ++ timer :: after)
    (hkey : timer.key = some key) (now : Nat) :
    inquiries ⟨now, before ++ after⟩ = clock.inquiries := by
  simp only [inquiries, htimers, List.filterMap_append,
    List.filterMap_cons_none (Timer.inquiry?_of_key hkey)]

theorem inquiries_take_reply {inquiry : Inquiry} {results : Results} (hsound : clock.Sound)
    (htimers : clock.timers = before ++ timer :: after)
    (hevent : timer.event = .reply inquiry results) (now : Nat) :
    clock.inquiries.Perm (inquiry :: inquiries ⟨now, before ++ after⟩) := by
  have hkey : timer.key = none := by
    rw [hsound.key_eq timer (by rw [htimers]; simp), hevent]
    rfl
  have hinquiry : timer.inquiry? = some inquiry := by
    obtain ⟨due, key, event⟩ := timer
    subst hkey hevent
    rfl
  simp only [inquiries, htimers, List.filterMap_append, List.filterMap_cons_some hinquiry]
  exact List.perm_middle

end Take

end Clock

end FieldRules
