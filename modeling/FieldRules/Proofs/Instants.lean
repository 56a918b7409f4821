import FieldRules.Proofs.SortedTimers

/-!
# From one instant to the next

An advance of the clock goes from one instant at which something is due to the next one,
and the number of instants is bounded in advance.  The bound is never reached: an
evaluation can set one timer more, for its reply, and a reply sets none.

* `Passes`: the clock moves on to an instant by way of all instants at which something
  is due before.
* `ahead_moveTo`: what is due at an instant does not wait any longer after it.
* `passes_advance`: an advance leaves out none of the instants.
-/

namespace FieldRules

/-- The event is an evaluation. -/
def Event.isEvaluation : Event → Bool
  | evaluate _ => true
  | reply _ _ => false

namespace Context

variable {c c' : Context} {instant : Nat}

/-! ## What a moment changes -/

theorem clock_fire (c : Context) (event : Event) : (c.fire event).clock = c.clock := by
  have hfire := congrArg clock (fire_clock c c.clock event)
  exact hfire

theorem clock_foldl_fire (events : List Event) (c : Context) :
    (events.foldl fire c).clock = c.clock := by
  induction events generalizing c with
  | nil => rfl
  | cons event rest ih => rw [List.foldl_cons, ih, clock_fire]

/-- To ask callbacks takes no time, and the reply is a timer unless it comes at once. -/
theorem clock_ask (c : Context) (inquiry : Inquiry) :
    (c.ask inquiry).clock = c.clock ∨
      ∃ delay results, delay ≠ 0 ∧
        (c.ask inquiry).clock = c.clock.set none delay (.reply inquiry results) := by
  unfold ask await
  split
  · have hconclude := congrArg clock (conclude_clock
      { c with asked := c.asked ++ c.requests inquiry } c.clock inquiry (Replies.results
        (inquiry.evaluation.pending.map fun check =>
          (check, c.callbacks.ask check.callback inquiry.request))))
    exact .inl hconclude
  · next hdelay => exact .inr ⟨_, _, hdelay, rfl⟩

/-- No evaluation waits for the callbacks, and none stops waiting. -/
theorem isPending_foldl_ask (inquiries : List Inquiry) (c : Context) (field : String) :
    (inquiries.foldl ask c).clock.isPending field = c.clock.isPending field := by
  induction inquiries generalizing c with
  | nil => rfl
  | cons inquiry rest ih =>
    rw [List.foldl_cons, ih]
    rcases clock_ask c inquiry with hclock | ⟨delay, results, -, hclock⟩
    · rw [hclock]
    · rw [hclock, Clock.isPending_set]
      exact Bool.false_or _

theorem isPending_settle (c : Context) (field : String) :
    c.settle.clock.isPending field = c.clock.isPending field :=
  isPending_foldl_ask c.ready { c with ready := [] } field

theorem ready_foldl_ask (inquiries : List Inquiry) (c : Context) :
    (inquiries.foldl ask c).ready = c.ready := by
  induction inquiries generalizing c with
  | nil => rfl
  | cons inquiry rest ih =>
    have hask := congrArg ready (ask_ready c c.ready inquiry)
    rw [List.foldl_cons, ih]
    exact hask

theorem ready_settle (c : Context) : c.settle.ready = [] :=
  ready_foldl_ask c.ready { c with ready := [] }

theorem settle_of_ready (hready : c.ready = []) : c.settle = c := by
  rw [settle, hready, List.foldl_nil, ← hready]

/-! ## What is left after an instant -/

/-- It is the given instant, and all timers run out later. -/
def Ahead (instant : Nat) (clock : Clock Event) : Prop :=
  clock.now = instant ∧ ∀ timer ∈ clock.timers, instant < timer.due

theorem Ahead.atInstant (hahead : Ahead instant c.clock) :
    c.atInstant instant c.clock.timers = c := by
  obtain ⟨rfl, -⟩ := hahead
  rfl

theorem Ahead.ask (hahead : Ahead instant c.clock) (inquiry : Inquiry) :
    Ahead instant (c.ask inquiry).clock := by
  rcases c.clock_ask inquiry with hsame | ⟨delay, results, hdelay, hset⟩
  · rwa [hsame]
  · obtain ⟨hnow, hlater⟩ := hahead
    rw [hset]
    refine ⟨hnow, fun timer hmem => ?_⟩
    rcases List.mem_cons.1 ((Clock.insertTimer_perm _ _).mem_iff.1 hmem) with rfl | hmem
    · dsimp only
      omega
    · exact hlater timer hmem

theorem moveTo_eq (c : Context) (instant : Nat) :
    c.moveTo instant = settle (((c.clock.timers.takeWhile (·.due ≤ instant)).map (·.event)).foldl
      fire (c.atInstant instant (c.clock.timers.dropWhile (·.due ≤ instant)))) :=
  rfl

/-- What is due at an instant does not wait any longer after it. -/
theorem ahead_moveTo (hsorted : c.clock.Sorted) (instant : Nat) :
    Ahead instant (c.moveTo instant).clock := by
  rw [moveTo_eq]
  refine List.foldlRecOn _ Context.ask (motive := fun c => Ahead instant c.clock) ?_
    fun _ hahead inquiry _ => hahead.ask inquiry
  change Ahead instant (List.foldl fire _ _).clock
  rw [clock_foldl_fire]
  exact ⟨rfl, hsorted.due_lt_of_mem_dropWhile instant⟩

theorem timers_of_nextDue? {clock : Clock Event} (hdue : clock.nextDue? = none) :
    clock.timers = [] := by
  unfold Clock.nextDue? at hdue
  exact List.head?_eq_none_iff.1 (Option.map_eq_none_iff.1 hdue)

theorem le_of_nextDue? {clock : Clock Event} (hsorted : clock.Sorted) {due : Nat}
    (hdue : clock.nextDue? = some due) : ∀ timer ∈ clock.timers, due ≤ timer.due := by
  unfold Clock.nextDue? at hdue
  unfold Clock.Sorted at hsorted
  cases htimers : clock.timers with
  | nil => exact fun _ hmem => absurd hmem List.not_mem_nil
  | cons head rest =>
    rw [htimers] at hdue hsorted
    obtain rfl : head.due = due := by simpa using hdue
    intro timer hmem
    rcases List.mem_cons.1 hmem with rfl | hmem
    · exact Nat.le_refl _
    · exact (List.pairwise_cons.1 hsorted).1 timer hmem

/-! ## How many instants there are -/

/-- At how many instants timers can run out, with those that they set. -/
def instants (timers : List (Timer Event)) : Nat :=
  timers.length + timers.countP (·.event.isEvaluation)

theorem instants_append (before after : List (Timer Event)) :
    instants (before ++ after) = instants before + instants after := by
  unfold instants
  rw [List.length_append, List.countP_append]
  omega

theorem instants_le (timers : List (Timer Event)) : instants timers ≤ 2 * timers.length := by
  have hcount := List.countP_le_length (p := fun timer : Timer Event => timer.event.isEvaluation)
    (l := timers)
  unfold instants
  omega

theorem instants_ask (c : Context) (inquiry : Inquiry) :
    instants (c.ask inquiry).clock.timers ≤ instants c.clock.timers + 1 := by
  rcases c.clock_ask inquiry with hsame | ⟨delay, results, -, hset⟩
  · rw [hsame]
    exact Nat.le_succ _
  · have hperm := Clock.insertTimer_perm
      (⟨c.clock.now + delay, none, .reply inquiry results⟩ : Timer Event) c.clock.timers
    rw [hset]
    unfold instants Clock.set
    rw [hperm.length_eq, hperm.countP_eq, List.length_cons,
      List.countP_cons_of_neg Bool.false_ne_true]
    omega

theorem instants_foldl_ask (inquiries : List Inquiry) (c : Context) :
    instants (inquiries.foldl ask c).clock.timers ≤ instants c.clock.timers + inquiries.length := by
  induction inquiries generalizing c with
  | nil => exact Nat.le_refl _
  | cons inquiry rest ih =>
    have hask := c.instants_ask inquiry
    have hrest := ih (c.ask inquiry)
    rw [List.foldl_cons, List.length_cons]
    omega

theorem length_launched (state : FieldState) (value : Option String) (generation : Nat)
    (result : Except ConfigError Evaluation) :
    (state.launched value generation result).length ≤ 1 := by
  cases result with
  | error e => exact Nat.zero_le 1
  | ok e =>
    unfold FieldState.launched
    dsimp only
    split
    · exact Nat.zero_le 1
    · exact Nat.le_refl 1

/-- An evaluation makes at most one inquiry, and the end of an inquiry makes none. -/
theorem length_ready_fire (horderly : c.Orderly) (event : Event) :
    (c.fire event).ready.length ≤ c.ready.length + if event.isEvaluation then 1 else 0 := by
  cases event with
  | evaluate field =>
    have hretain := congrArg ready (retain_ready (c.evaluate field).1 (c.evaluate field).1.ready
      (c.evaluate field).2)
    have hfire : (c.fire (.evaluate field)).ready = (c.evaluate field).1.ready := hretain
    rw [hfire]
    cases hfind : c.fields.find? field with
    | none =>
      rw [evaluate_of_unregistered c hfind]
      exact Nat.le_succ _
    | some state =>
      obtain ⟨hname, hfield⟩ := horderly.named field state hfind
      have hlaunched := length_launched state (c.values.find? field) (c.generations.issued + 1)
        (c.evaluation state)
      rw [evaluate_eq c hfind hname hfield]
      change (c.ready ++ _).length ≤ c.ready.length + 1
      rw [List.length_append]
      omega
  | reply inquiry results =>
    have hready := congrArg ready (conclude_ready c c.ready inquiry results)
    have hfire : (c.fire (.reply inquiry results)).ready = c.ready := hready
    rw [hfire]
    exact Nat.le_refl _

theorem length_ready_foldl_fire (events : List Event) (c : Context) (horderly : c.Orderly) :
    (events.foldl fire c).ready.length ≤ c.ready.length + events.countP (·.isEvaluation) := by
  induction events generalizing c with
  | nil => exact Nat.le_refl _
  | cons event rest ih =>
    have hfire := length_ready_fire horderly event
    have hrest := ih (c.fire event)
      (horderly.changes (changes_fire horderly (List.mem_singleton_self event.field)))
    rw [List.foldl_cons, List.countP_cons]
    omega

/-- What happens at an instant leaves fewer instants. -/
theorem instants_moveTo (horderly : c.Orderly) (hready : c.ready = []) {due : Nat}
    (hdue : c.clock.nextDue? = some due) :
    instants (c.moveTo due).clock.timers < instants c.clock.timers := by
  have hsplit := List.takeWhile_append_dropWhile (p := fun timer : Timer Event =>
    decide (timer.due ≤ due)) (l := c.clock.timers)
  have htaken : 0 < (c.clock.timers.takeWhile (·.due ≤ due)).length := by
    unfold Clock.nextDue? at hdue
    cases htimers : c.clock.timers with
    | nil => simp [htimers] at hdue
    | cons head rest =>
      obtain rfl : head.due = due := by simpa [htimers] using hdue
      simp
  rw [moveTo_eq, settle]
  generalize c.clock.timers.takeWhile (·.due ≤ due) = taken at hsplit htaken ⊢
  generalize c.clock.timers.dropWhile (·.due ≤ due) = left at hsplit ⊢
  have hsound : (c.atInstant due left).Orderly := by
    refine ⟨horderly.named, horderly.clock.sublist ?_ due⟩
    rw [← hsplit]
    exact List.sublist_append_right taken left
  generalize hfired : (taken.map (·.event)).foldl fire (c.atInstant due left) = d
  have hclock : d.clock = ⟨due, left⟩ := by
    rw [← hfired]
    exact clock_foldl_fire _ _
  -- every inquiry that is made comes from one of the evaluations that are taken
  have hmade := length_ready_foldl_fire (taken.map (·.event)) (c.atInstant due left) hsound
  have hasked := instants_foldl_ask d.ready { d with ready := [] }
  have hnone : (c.atInstant due left).ready = [] := hready
  rw [hfired, hnone, List.countP_map] at hmade
  have hleft : instants (({ d with ready := [] } : Context)).clock.timers = instants left := by
    change instants d.clock.timers = _
    rw [hclock]
  have hall := instants_append taken left
  rw [hsplit] at hall
  have htakes : instants taken = taken.length + taken.countP (·.event.isEvaluation) := rfl
  have hcount : taken.countP ((·.isEvaluation) ∘ (·.event)) =
      taken.countP (·.event.isEvaluation) := rfl
  rw [List.length_nil] at hmade
  omega

/-! ## Advances -/

/-- The clock moves on to an instant by way of all instants at which something is due
before. -/
inductive Passes (instant : Nat) : Context → Context → Prop
  | last {c : Context} (hlater : ∀ timer ∈ c.clock.timers, instant ≤ timer.due) :
      Passes instant c (c.moveTo instant)
  | next {c c' : Context} {due : Nat} (hdue : c.clock.nextDue? = some due) (hbefore : due < instant)
      (hrest : Passes instant (c.moveTo due) c') : Passes instant c c'

theorem passes_advanceTo (fuel : Nat) : ∀ {c : Context}, c.Reachable → c.ready = [] →
    instants c.clock.timers ≤ fuel → Passes instant c (advanceTo instant fuel c) := by
  induction fuel with
  | zero =>
    intro c _ _ hfuel
    have htimers : c.clock.timers = [] := by
      unfold instants at hfuel
      exact List.length_eq_zero_iff.1 (by omega)
    exact .last (by simp [htimers])
  | succ fuel ih =>
    intro c hreach hready hfuel
    unfold advanceTo
    cases hnext : c.clock.nextDue? with
    | none => exact .last (by simp [timers_of_nextDue? hnext])
    | some due =>
      dsimp only
      split
      · next hbefore =>
        have hfewer := instants_moveTo hreach.sound.orderly hready hnext
        exact .next hnext hbefore (ih (hreach.leads (leads_moveTo c due)) (ready_settle _) (by omega))
      · next hafter =>
        refine .last fun timer hmem => ?_
        exact (Nat.le_of_not_lt hafter).trans (le_of_nextDue? hreach.sorted hnext timer hmem)

/-- An advance leaves out no instant at which something is due. -/
theorem passes_advance (hreach : c.Reachable) (hready : c.ready = []) (ms : Nat) :
    Passes (c.clock.now + ms) c (c.advance ms) :=
  passes_advanceTo _ hreach hready (instants_le _)

theorem Passes.ahead (hpasses : Passes instant c c') (hreach : c.Reachable) :
    Ahead instant c'.clock := by
  induction hpasses with
  | last => exact ahead_moveTo hreach.sorted instant
  | next _ _ _ ih => exact ih (hreach.leads (leads_moveTo _ _))

theorem Passes.ready (hpasses : Passes instant c c') : c'.ready = [] := by
  induction hpasses with
  | last => exact ready_settle _
  | next _ _ _ ih => exact ih

end Context

end FieldRules
