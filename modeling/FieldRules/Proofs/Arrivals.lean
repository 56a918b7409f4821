import FieldRules.Submissions
import FieldRules.Proofs.Registries
import FieldRules.Proofs.Traces

/-!
# Which submissions are under way after some actions

* `generationOf`, `IsLatest`, `Submits`: what the actions alone tell about the
  generations and the submissions.
* `Tracks`: the generations that are kept are the latest ones.
* `Reflects`: the submissions under way are those whose results are still to come.
* `Reflects.perform`: every action keeps this, and the results arrive in it that
  have to.
-/

namespace FieldRules.Submissions

variable {actions : List Action} {action : Action} {field other : String}
  {number task generation delay : Nat}

/-! ## What the actions tell -/

/-- The time that some actions take. -/
abbrev elapsed (actions : List Action) : Nat :=
  Trace.elapsed Action.duration actions

/-- The instant at which the action of a number is carried out. -/
abbrev instantAt (actions : List Action) (number : Nat) : Nat :=
  Trace.instantAt Action.duration actions number

/-- The field that an action gives its next generation to. -/
def Action.begun? : Action → Option String
  | begin field | invalidate field | submit field _ => some field
  | _ => none

/-- The generation of a field is not the latest one after the action. -/
def Action.Outdates (field : String) (action : Action) : Prop :=
  action.begun? = some field ∨ action = .forget field

/-- The generation that an action gives to a field.  Generations are numbered from 1
in the order in which they are given to the fields. -/
def generationOf (actions : List Action) (number : Nat) : Nat :=
  (actions.take (number + 1)).countP (·.begun?.isSome)

/-- The last action that has given a generation to the field has given it this one,
and the field has not been forgotten since. -/
def IsLatest (actions : List Action) (field : String) (generation : Nat) : Prop :=
  ∃ number action, actions[number]? = some action ∧ action.begun? = some field ∧
    generation = generationOf actions number ∧
    ∀ later other, number < later → actions[later]? = some other → ¬ other.Outdates field

/-- An action submits work for a generation of a field. -/
def Action.Submits (own : Nat) (field : String) (generation delay : Nat) (action : Action) : Prop :=
  action = .submit field delay ∧ generation = own ∨ action = .spawn field generation delay

/-- Work has been submitted for a generation of a field.  It is known by the number
of the action. -/
def Submits (actions : List Action) (task : Nat) (field : String) (generation delay : Nat) : Prop :=
  ∃ action, actions[task]? = some action ∧
    action.Submits (generationOf actions task) field generation delay

/-- Whether an action submits work. -/
def Action.submits : Action → Bool
  | submit _ _ | spawn _ _ _ => true
  | _ => false

/-- How many submissions have been made before an action. -/
def madeBefore (actions : List Action) (number : Nat) : Nat :=
  (actions.take number).countP Action.submits

/-! ### One more action -/

theorem elapsed_append :
    elapsed (actions ++ [action]) = elapsed actions + action.duration :=
  Trace.elapsed_append_singleton _ _ _

theorem generationOf_append (hlt : number < actions.length) :
    generationOf (actions ++ [action]) number = generationOf actions number := by
  rw [generationOf, List.take_append_of_le_length hlt]
  rfl

theorem generationOf_length :
    generationOf (actions ++ [action]) actions.length =
      actions.countP (·.begun?.isSome) + if action.begun?.isSome then 1 else 0 := by
  rw [generationOf, List.take_of_length_le (by simp), List.countP_append, List.countP_singleton]

/-- A later generation has a higher number. -/
theorem generationOf_lt (haction : actions[number]? = some action)
    (hbegun : action.begun? = some field) (hlt : task < number) :
    generationOf actions task < generationOf actions number := by
  have hnumber : generationOf actions number =
      (actions.take number).countP (·.begun?.isSome) + 1 := by
    rw [generationOf, Trace.take_succ_of_getElem? haction, List.countP_append,
      List.countP_singleton, hbegun]
    rfl
  rw [hnumber, Nat.lt_succ_iff]
  exact (List.take_sublist_take_left (Nat.succ_le_of_lt hlt)).countP_le

theorem isLatest_append :
    IsLatest (actions ++ [action]) field generation ↔
      (action.begun? = some field ∧ generation = generationOf (actions ++ [action]) actions.length) ∨
        ¬ action.Outdates field ∧ IsLatest actions field generation := by
  constructor
  · rintro ⟨number, found, hfound, hbegun, hgeneration, hlast⟩
    rw [Trace.getElem?_append_singleton] at hfound
    split at hfound
    · rename_i hlt
      rw [generationOf_append hlt] at hgeneration
      refine .inr ⟨hlast _ action hlt (by simp), number, found, hfound, hbegun, hgeneration,
        fun later other hafter hother => hlast later other hafter ?_⟩
      rw [List.getElem?_append_left (Trace.lt_length_of_getElem? hother), hother]
    · split at hfound
      · rename_i heq
        cases hfound
        exact .inl ⟨hbegun, heq ▸ hgeneration⟩
      · cases hfound
  · rintro (⟨hbegun, hgeneration⟩ | ⟨hnot, number, found, hfound, hbegun, hgeneration, hlast⟩)
    · refine ⟨actions.length, action, by simp, hbegun, hgeneration,
        fun later other hafter hother => ?_⟩
      have hlt := Trace.lt_length_of_getElem? hother
      rw [List.length_append, List.length_singleton] at hlt
      omega
    · have hlt := Trace.lt_length_of_getElem? hfound
      refine ⟨number, found, ?_, hbegun, ?_, fun later other hafter hother => ?_⟩
      · rw [List.getElem?_append_left hlt, hfound]
      · rw [generationOf_append hlt, hgeneration]
      · rw [Trace.getElem?_append_singleton] at hother
        split at hother
        · exact hlast later other hafter hother
        · split at hother
          · cases hother
            exact hnot
          · cases hother

theorem Submits.lt_length (hsubmits : Submits actions task field generation delay) :
    task < actions.length := by
  obtain ⟨action, haction, -⟩ := hsubmits
  exact Trace.lt_length_of_getElem? haction

theorem submits_append :
    Submits (actions ++ [action]) task field generation delay ↔
      Submits actions task field generation delay ∨ task = actions.length ∧
        action.Submits (generationOf (actions ++ [action]) actions.length) field generation delay := by
  unfold Submits
  rw [Trace.getElem?_append_singleton]
  rcases Nat.lt_trichotomy task actions.length with hlt | rfl | hgt
  · rw [if_pos hlt, generationOf_append hlt,
      or_iff_left fun h => absurd h.1 (Nat.ne_of_lt hlt)]
  · rw [if_neg (Nat.lt_irrefl _), if_pos rfl, List.getElem?_eq_none (Nat.le_refl _)]
    simp
  · rw [if_neg (Nat.lt_asymm hgt), if_neg (Nat.ne_of_gt hgt),
      List.getElem?_eq_none (Nat.le_of_lt hgt)]
    simp [Nat.ne_of_gt hgt]

theorem submits_append_of_idle (hidle : action.submits = false) :
    Submits (actions ++ [action]) task field generation delay ↔
      Submits actions task field generation delay := by
  rw [submits_append, or_iff_left]
  rintro ⟨-, ⟨rfl, -⟩ | rfl⟩ <;> cases hidle

theorem madeBefore_append (hle : number ≤ actions.length) :
    madeBefore (actions ++ [action]) number = madeBefore actions number := by
  rw [madeBefore, List.take_append_of_le_length hle]
  rfl

theorem madeBefore_length :
    madeBefore (actions ++ [action]) (actions ++ [action]).length =
      madeBefore actions actions.length + if action.submits then 1 else 0 := by
  rw [madeBefore, madeBefore, List.take_length, List.take_length, List.countP_append,
    List.countP_singleton]

section Work

variable {own : Nat} (hsubmits : action.Submits own field generation delay)
include hsubmits

theorem Action.Submits.duration_eq : action.duration = 0 := by
  rcases hsubmits with ⟨rfl, -⟩ | rfl <;> rfl

theorem Action.Submits.submits_eq : action.submits = true := by
  rcases hsubmits with ⟨rfl, -⟩ | rfl <;> rfl

/-- The work of an action has one field, one generation and one delay. -/
theorem Action.Submits.unique {field' : String} {generation' delay' : Nat}
    (hsubmits' : action.Submits own field' generation' delay') :
    field = field' ∧ generation = generation' ∧ delay = delay' := by
  rcases hsubmits with ⟨rfl, rfl⟩ | rfl <;> rcases hsubmits' with ⟨h', rfl⟩ | h' <;> cases h' <;>
    exact ⟨rfl, rfl, rfl⟩

end Work

theorem Submits.unique {field' : String} {generation' delay' : Nat}
    (hsubmits : Submits actions task field generation delay)
    (hsubmits' : Submits actions task field' generation' delay') :
    field = field' ∧ generation = generation' ∧ delay = delay' := by
  obtain ⟨action, haction, h⟩ := hsubmits
  obtain ⟨action', haction', h'⟩ := hsubmits'
  rw [haction] at haction'
  cases haction'
  exact h.unique h'

/-! ## Generations -/

/-- The generations after some actions. -/
structure Tracks (actions : List Action) (generations : Generations) : Prop where
  issued : generations.issued = actions.countP (·.begun?.isSome)
  current_iff : ∀ field generation,
    generations.current? field = some generation ↔ IsLatest actions field generation

variable {generations : Generations}

theorem Tracks.start : Tracks [] {} where
  issued := rfl
  current_iff field generation := by
    refine iff_of_false nofun ?_
    rintro ⟨number, action, haction, -⟩
    cases haction

theorem Tracks.begin (htracks : Tracks actions generations)
    (hbegun : action.begun? = some field) :
    Tracks (actions ++ [action]) (generations.begin field).1 ∧
      (generations.begin field).2 = generationOf (actions ++ [action]) actions.length := by
  have hnext : generationOf (actions ++ [action]) actions.length = generations.issued + 1 := by
    rw [generationOf_length, htracks.issued, hbegun]
    rfl
  refine ⟨⟨?_, fun other generation => ?_⟩, hnext.symm⟩
  · rw [List.countP_append, List.countP_singleton, hbegun, ← htracks.issued]
    rfl
  · rw [isLatest_append, hbegun, hnext]
    by_cases hfield : field = other
    · subst hfield
      rw [Generations.current?_begin_self, Option.some_inj, eq_comm,
        or_iff_left fun h => h.1 (.inl hbegun)]
      exact (and_iff_right rfl).symm
    · rw [Generations.current?_begin_of_ne _ hfield, htracks.current_iff,
        or_iff_right fun h => hfield (Option.some.inj h.1)]
      refine (and_iff_right ?_).symm
      rintro (h | rfl)
      · rw [hbegun] at h
        exact hfield (Option.some.inj h)
      · cases hbegun

theorem Tracks.forget (htracks : Tracks actions generations) (field : String) :
    Tracks (actions ++ [.forget field]) (generations.forget field) := by
  refine ⟨?_, fun other generation => ?_⟩
  · rw [List.countP_append]
    exact htracks.issued
  · rw [isLatest_append, or_iff_right (by rintro ⟨⟨⟩, -⟩)]
    by_cases hfield : field = other
    · subst hfield
      rw [Generations.current?_forget_self]
      exact iff_of_false nofun fun h => h.1 (.inr rfl)
    · rw [Generations.current?_forget_of_ne _ hfield, htracks.current_iff]
      refine (and_iff_right ?_).symm
      rintro (h | h) <;> cases h
      exact hfield rfl

/-- Other actions leave the generations as they are. -/
theorem Tracks.keep (htracks : Tracks actions generations)
    (hnot : ∀ field, ¬ action.Outdates field) : Tracks (actions ++ [action]) generations := by
  have hbegun : action.begun? = none :=
    Option.eq_none_iff_forall_ne_some.2 fun field h => hnot field (.inl h)
  refine ⟨?_, fun other generation => ?_⟩
  · rw [List.countP_append, List.countP_singleton, hbegun]
    exact htracks.issued
  · rw [isLatest_append, hbegun, or_iff_right (by rintro ⟨⟨⟩, -⟩), htracks.current_iff]
    exact (and_iff_right (hnot other)).symm

theorem Tracks.isCurrent_iff (htracks : Tracks actions generations) :
    generations.isCurrent field generation = true ↔ IsLatest actions field generation :=
  decide_eq_true_iff.trans (htracks.current_iff field generation)

/-! ## Submissions under way -/

/-- A timer of a submission that takes some time. -/
def IsUnderWay (actions : List Action) (timer : Timer (Submission Nat)) : Prop :=
  ∃ task field generation delay, delay ≠ 0 ∧ Submits actions task field generation delay ∧
    timer = ⟨instantAt actions task + delay, none, madeBefore actions task, field, generation, task⟩

theorem isUnderWay_append {timer : Timer (Submission Nat)} :
    IsUnderWay (actions ++ [action]) timer ↔ IsUnderWay actions timer ∨
      ∃ field generation delay, delay ≠ 0 ∧
        action.Submits (generationOf (actions ++ [action]) actions.length) field generation delay ∧
        timer = ⟨elapsed actions + delay, none, madeBefore actions actions.length, field, generation,
          actions.length⟩ := by
  constructor
  · rintro ⟨task, field, generation, delay, hdelay, hsubmits, rfl⟩
    rcases submits_append.1 hsubmits with hold | ⟨rfl, hnew⟩
    · have hle := Nat.le_of_lt hold.lt_length
      refine .inl ⟨task, field, generation, delay, hdelay, hold, ?_⟩
      rw [instantAt, Trace.instantAt_append _ hle, madeBefore_append hle]
    · refine .inr ⟨field, generation, delay, hdelay, hnew, ?_⟩
      rw [instantAt, Trace.instantAt_length, madeBefore_append (Nat.le_refl _)]
  · rintro (⟨task, field, generation, delay, hdelay, hold, rfl⟩ |
      ⟨field, generation, delay, hdelay, hnew, rfl⟩)
    · have hle := Nat.le_of_lt hold.lt_length
      refine ⟨task, field, generation, delay, hdelay, submits_append.2 (.inl hold), ?_⟩
      rw [instantAt, instantAt, Trace.instantAt_append _ hle, madeBefore_append hle]
    · refine ⟨actions.length, field, generation, delay, hdelay,
        submits_append.2 (.inr ⟨rfl, hnew⟩), ?_⟩
      rw [instantAt, Trace.instantAt_length, madeBefore_append (Nat.le_refl _)]

theorem isUnderWay_append_of_idle (hidle : action.submits = false)
    (timer : Timer (Submission Nat)) :
    IsUnderWay (actions ++ [action]) timer ↔ IsUnderWay actions timer := by
  rw [isUnderWay_append, or_iff_left]
  rintro ⟨_, _, _, -, ⟨rfl, -⟩ | rfl, -⟩ <;> cases hidle

/-- The submissions after some actions.  Those are under way whose results are still
to come. -/
structure Reflects (actions : List Action) (s : Submissions Nat) : Prop where
  now : s.clock.now = elapsed actions
  made : s.made = madeBefore actions actions.length
  underWay : s.clock.Keeps (·.result) (IsUnderWay actions)

/-- A result arrives in the action that comes after some others, and is applied if
its generation is the latest one then. -/
def ArrivesIn (actions : List Action) (action : Action) (arrival : Arrival Nat) : Prop :=
  ∃ task field generation delay, Submits (actions ++ [action]) task field generation delay ∧
    (delay = 0 ∧ task = actions.length ∨ delay ≠ 0 ∧
      elapsed actions < instantAt (actions ++ [action]) task + delay ∧
      instantAt (actions ++ [action]) task + delay ≤ elapsed (actions ++ [action])) ∧
    arrival.submission = ⟨madeBefore (actions ++ [action]) task, field, generation, task⟩ ∧
    (arrival.applied = true ↔ IsLatest (actions ++ [action]) field generation)

variable {s : Submissions Nat}

theorem Reflects.start : Reflects [] {} where
  now := rfl
  made := rfl
  underWay := .empty _ fun timer => by
    rintro ⟨task, field, generation, delay, -, ⟨action, haction, -⟩, -⟩
    cases haction

theorem Reflects.withGenerations (hreflects : Reflects actions s) (generations : Generations) :
    Reflects actions { s with generations } :=
  ⟨hreflects.now, hreflects.made, hreflects.underWay⟩

section Idle

variable (hidle : action.submits = false)
include hidle

theorem Reflects.keep (hreflects : Reflects actions s) (hduration : action.duration = 0)
    (generations : Generations) : Reflects (actions ++ [action]) { s with generations } where
  now := by rw [elapsed_append, hduration]; exact hreflects.now
  made := by rw [madeBefore_length, hidle]; exact hreflects.made
  underWay := hreflects.underWay.congr (isUnderWay_append_of_idle hidle)

/-- Nothing arrives in an action that takes no time and submits no work. -/
theorem not_arrivesIn (hduration : action.duration = 0) (arrival : Arrival Nat) :
    ¬ ArrivesIn actions action arrival := by
  rintro ⟨task, field, generation, delay, hsubmits, hwhen, -⟩
  have hold := (submits_append_of_idle hidle).1 hsubmits
  rcases hwhen with ⟨-, rfl⟩ | ⟨-, hafter, hby⟩
  · exact Nat.lt_irrefl _ hold.lt_length
  · rw [elapsed_append, hduration] at hby
    exact Nat.not_le.2 hafter hby

end Idle

/-- Two arrivals of one action that say the same of the submission are the same. -/
theorem arrival_ext {a b : Arrival Nat} (hsubmission : a.submission = b.submission)
    (happlied : a.applied = true ↔ b.applied = true) : a = b := by
  cases a
  cases b
  cases hsubmission
  exact congrArg _ (Bool.eq_iff_iff.2 happlied)

section Spawn

variable (hreflects : Reflects actions s)
  (hsubmits : action.Submits (generationOf (actions ++ [action]) actions.length) field generation
    delay)
include hsubmits

theorem elapsed_append_of_submits : elapsed (actions ++ [action]) = elapsed actions := by
  rw [elapsed_append, hsubmits.duration_eq, Nat.add_zero]

theorem madeBefore_length_of_submits :
    madeBefore (actions ++ [action]) (actions ++ [action]).length =
      madeBefore actions actions.length + 1 := by
  rw [madeBefore_length, hsubmits.submits_eq]
  rfl

/-- The results that arrive in an action that submits work are those of this work. -/
theorem arrivesIn_iff_of_submits {arrival : Arrival Nat} :
    ArrivesIn actions action arrival ↔ delay = 0 ∧
      arrival.submission = ⟨madeBefore actions actions.length, field, generation, actions.length⟩ ∧
      (arrival.applied = true ↔ IsLatest (actions ++ [action]) field generation) := by
  have hown : Submits (actions ++ [action]) actions.length field generation delay :=
    submits_append.2 (.inr ⟨rfl, hsubmits⟩)
  constructor
  · rintro ⟨task, field', generation', delay', hother, hwhen, hsubmission, happlied⟩
    rcases hwhen with ⟨hzero, rfl⟩ | ⟨-, hafter, hby⟩
    · obtain ⟨rfl, rfl, rfl⟩ := hown.unique hother
      rw [madeBefore_append (Nat.le_refl _)] at hsubmission
      exact ⟨hzero, hsubmission, happlied⟩
    · rw [elapsed_append_of_submits hsubmits] at hby
      exact absurd hby (Nat.not_le.2 hafter)
  · rintro ⟨hzero, hsubmission, happlied⟩
    refine ⟨actions.length, field, generation, delay, hown, .inl ⟨hzero, rfl⟩, ?_, happlied⟩
    rw [madeBefore_append (Nat.le_refl _), hsubmission]

include hreflects

/-- Work without a delay is not under way. -/
theorem Reflects.submit_at_once (hzero : delay = 0) :
    Reflects (actions ++ [action]) { s with made := s.made + 1 } where
  now := hreflects.now.trans (elapsed_append_of_submits hsubmits).symm
  made := by rw [madeBefore_length_of_submits hsubmits, ← hreflects.made]
  underWay := hreflects.underWay.congr fun timer => by
    rw [isUnderWay_append, or_iff_left]
    rintro ⟨_, _, _, hdelay, h, -⟩
    exact hdelay ((hsubmits.unique h).2.2.symm.trans hzero)

/-- Work with a delay is under way. -/
theorem Reflects.submit_later (hdelay : delay ≠ 0) :
    Reflects (actions ++ [action])
      { s with
        made := s.made + 1
        clock := s.clock.set none delay ⟨s.made, field, generation, actions.length⟩ } where
  now := hreflects.now.trans (elapsed_append_of_submits hsubmits).symm
  made := by rw [madeBefore_length_of_submits hsubmits, ← hreflects.made]
  underWay := by
    refine (hreflects.underWay.set hdelay ?_).congr fun timer => ?_
    · rintro timer ⟨task, _, _, _, -, hold, rfl⟩
      exact hold.lt_length
    · rw [isUnderWay_append, hreflects.now, hreflects.made]
      refine or_congr_right ⟨?_, ?_⟩
      · rintro ⟨_, _, _, -, h, rfl⟩
        obtain ⟨rfl, rfl, rfl⟩ := hsubmits.unique h
        rfl
      · rintro rfl
        exact ⟨field, generation, delay, hdelay, hsubmits, rfl⟩

/-- Work is submitted that belongs to a generation. -/
theorem Reflects.spawn (htracks : Tracks (actions ++ [action]) s.generations) :
    Reflects (actions ++ [action]) (s.spawn field generation delay actions.length).1 ∧
      (s.spawn field generation delay actions.length).1.generations = s.generations ∧
      (∀ arrival, arrival ∈ (s.spawn field generation delay actions.length).2 ↔
        ArrivesIn actions action arrival) ∧
      ((s.spawn field generation delay actions.length).2.map (·.submission.result)).Nodup := by
  rw [Submissions.spawn]
  dsimp only
  split
  · rename_i hzero
    refine ⟨hreflects.submit_at_once hsubmits hzero, rfl, fun arrival => ?_, List.nodup_singleton _⟩
    rw [List.mem_singleton, arrivesIn_iff_of_submits hsubmits, ← hreflects.made]
    constructor
    · rintro rfl
      exact ⟨hzero, rfl, htracks.isCurrent_iff⟩
    · rintro ⟨-, hsubmission, happlied⟩
      exact arrival_ext hsubmission (happlied.trans htracks.isCurrent_iff.symm)
  · rename_i hdelay
    refine ⟨hreflects.submit_later hsubmits hdelay, rfl, fun arrival => ?_, .nil⟩
    rw [arrivesIn_iff_of_submits hsubmits]
    exact iff_of_false List.not_mem_nil fun h => hdelay h.1

end Spawn

/-- As the clock moves on, the results arrive whose instants come. -/
theorem Reflects.advance (hreflects : Reflects actions s) (htracks : Tracks actions s.generations)
    (ms : Nat) :
    Reflects (actions ++ [.advance ms]) (s.advance ms).1 ∧
      (∀ arrival, arrival ∈ (s.advance ms).2 ↔ ArrivesIn actions (.advance ms) arrival) ∧
      ((s.advance ms).2.map (·.submission.result)).Nodup := by
  obtain ⟨hkeeps, hmem, hsorted⟩ := hreflects.underWay.advance ms
  rw [hreflects.now] at hmem
  have hlater : Tracks (actions ++ [.advance ms]) s.generations :=
    htracks.keep fun field => by rintro (h | h) <;> cases h
  refine ⟨⟨?_, ?_, hkeeps.congr (isUnderWay_append_of_idle rfl)⟩, fun arrival => ?_, ?_⟩
  · rw [elapsed_append, ← hreflects.now]
    rfl
  · rw [madeBefore_length]
    exact hreflects.made
  · rw [Submissions.advance, List.mem_map]
    constructor
    · rintro ⟨timer, htimer, rfl⟩
      obtain ⟨⟨task, field, generation, delay, hdelay, hold, rfl⟩, hafter, hby⟩ :=
        (hmem timer).1 htimer
      have hle := Nat.le_of_lt hold.lt_length
      refine ⟨task, field, generation, delay, (submits_append_of_idle rfl).2 hold,
        .inr ⟨hdelay, ?_, ?_⟩, ?_, hlater.isCurrent_iff⟩
      · rwa [instantAt, Trace.instantAt_append _ hle]
      · rwa [instantAt, Trace.instantAt_append _ hle, elapsed_append]
      · rw [madeBefore_append hle]
        rfl
    · rintro ⟨task, field, generation, delay, hsubmits, hwhen, hsubmission, happlied⟩
      have hold := (submits_append_of_idle rfl).1 hsubmits
      have hle := Nat.le_of_lt hold.lt_length
      rcases hwhen with ⟨-, rfl⟩ | ⟨hdelay, hafter, hby⟩
      · exact absurd hold.lt_length (Nat.lt_irrefl _)
      · rw [instantAt, Trace.instantAt_append _ hle] at hafter hby
        rw [madeBefore_append hle] at hsubmission
        rw [elapsed_append] at hby
        refine ⟨_, (hmem _).2 ⟨⟨task, field, generation, delay, hdelay, hold, rfl⟩, hafter, hby⟩, ?_⟩
        exact (arrival_ext hsubmission (happlied.trans hlater.isCurrent_iff.symm)).symm
  · rw [Submissions.advance, List.map_map]
    -- the timers of one work would run out at one instant and have one number
    refine List.pairwise_map.2 (hsorted.imp_of_mem fun {a b} ha hb hprecedes heq => ?_)
    obtain ⟨⟨task, field, generation, delay, -, hold, rfl⟩, -⟩ := (hmem a).1 ha
    obtain ⟨⟨task', field', generation', delay', -, hold', rfl⟩, -⟩ := (hmem b).1 hb
    obtain rfl : task = task' := heq
    obtain ⟨-, -, rfl⟩ := hold.unique hold'
    rcases hprecedes with h | ⟨-, h⟩ <;> exact Nat.lt_irrefl _ h

/-! ## One action -/

/-- After an action the submissions and the generations are what the actions up to
it tell, and the results have arrived in it that had to. -/
theorem perform_spec (htracks : Tracks actions s.generations) (hreflects : Reflects actions s)
    (action : Action) :
    Tracks (actions ++ [action]) (s.perform actions.length action).1.generations ∧
      Reflects (actions ++ [action]) (s.perform actions.length action).1 ∧
      (∀ arrival, arrival ∈ (s.perform actions.length action).2.arrivals ↔
        ArrivesIn actions action arrival) ∧
      ((s.perform actions.length action).2.arrivals.map (·.submission.result)).Nodup := by
  have hnone : action.submits = false → action.duration = 0 →
      ∀ arrival, arrival ∈ ([] : List (Arrival Nat)) ↔ ArrivesIn actions action arrival :=
    fun hidle hduration arrival =>
      iff_of_false List.not_mem_nil (not_arrivesIn hidle hduration arrival)
  cases action with
  | begin field =>
    exact ⟨(htracks.begin rfl).1, hreflects.keep rfl rfl _, hnone rfl rfl, .nil⟩
  | invalidate field =>
    exact ⟨(htracks.begin rfl).1, hreflects.keep rfl rfl _, hnone rfl rfl, .nil⟩
  | forget field =>
    exact ⟨htracks.forget field, hreflects.keep rfl rfl _, hnone rfl rfl, .nil⟩
  | submit field delay =>
    have hbegun : Tracks (actions ++ [.submit field delay]) (s.begin field).1.generations ∧
        (s.begin field).2 = generationOf (actions ++ [.submit field delay]) actions.length :=
      htracks.begin rfl
    obtain ⟨hafter, hgenerations, harrivals, hnodup⟩ :=
      (hreflects.withGenerations (s.begin field).1.generations).spawn (.inl ⟨rfl, hbegun.2⟩)
        hbegun.1
    refine ⟨?_, hafter, harrivals, hnodup⟩
    exact Eq.subst hgenerations.symm hbegun.1
  | spawn field generation delay =>
    have hkept : Tracks (actions ++ [.spawn field generation delay]) s.generations :=
      htracks.keep fun other => by rintro (h | h) <;> cases h
    obtain ⟨hafter, hgenerations, harrivals, hnodup⟩ := hreflects.spawn (.inr rfl) hkept
    refine ⟨?_, hafter, harrivals, hnodup⟩
    exact Eq.subst hgenerations.symm hkept
  | ifCurrent field generation =>
    refine ⟨htracks.keep fun other => ?_, hreflects.keep rfl rfl s.generations, hnone rfl rfl, .nil⟩
    rintro (h | h) <;> cases h
  | advance ms =>
    obtain ⟨hafter, harrivals, hnodup⟩ := hreflects.advance htracks ms
    refine ⟨htracks.keep fun other => ?_, hafter, harrivals, hnodup⟩
    rintro (h | h) <;> cases h

end FieldRules.Submissions
