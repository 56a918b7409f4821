import FieldRules.Proofs.Instants
import FieldRules.Proofs.LifeSteps

/-!
# A life in time

A context moves its clock from one instant at which something is due to the next one.
Most of these instants are those of other fields, and they differ from one context to
another.  For a life, time passes millisecond by millisecond: at each of them the timers
of the life that run out have their effect, and then the callbacks are asked.

* `Life.tick`: a millisecond in a life.
* `Context.life_settle`: what happens without delay.
* `Context.life_moveTo`: what happens at one instant.
* `Context.life_advance`: an advance of the clock, as some ticks.
* `Context.life_run`: the life of a field after operations on it.
-/

namespace FieldRules

namespace Life

/-! ## Time in a life -/

/-- The life after an event. -/
def fired (life : Life) : Event → Life
  | .evaluate _ => life.evaluated
  | .reply inquiry results => life.concluded inquiry results

/-- The life after the events that are due now, at most as many as `fuel`. -/
def drained : (fuel : Nat) → Life → Life
  | 0, life => life
  | fuel + 1, life =>
    match life.timers with
    | [] => life
    | head :: rest =>
      if head.due = 0 then drained fuel ({ life with timers := rest }.fired head.event) else life

/-- The life after all that happens now. -/
def happened (life : Life) : Life :=
  (life.drained life.timers.length).settled

/-- The life some milliseconds later, if nothing happens until then. -/
def later (life : Life) (ms : Nat) : Life :=
  { life with timers := life.timers.map fun timer => { timer with due := timer.due - ms } }

/-- The life after a millisecond. -/
def tick (life : Life) : Life :=
  (life.later 1).happened

/-- The life after an operation on its field, or on no field. -/
def act (life : Life) : Operation → Life
  | .advance ms => tick^[ms] life
  | operation => life.perform operation

/-- The life after an operation and what follows from it without delay. -/
def step (life : Life) (operation : Operation) : Life :=
  (life.act operation).settled

/-- Nothing is due yet. -/
def Early (life : Life) : Prop :=
  ∀ timer ∈ life.timers, 0 < timer.due

variable {life : Life}

/-! ## Nothing happens before its time -/

theorem drained_of_early (hearly : life.Early) (fuel : Nat) : life.drained fuel = life := by
  cases fuel with
  | zero => rfl
  | succ fuel =>
    rw [drained]
    cases htimers : life.timers with
    | nil => rfl
    | cons head rest =>
      have hdue := hearly head (by simp [htimers])
      exact if_neg (by omega)

theorem settled_of_ready (hready : life.ready = []) : life.settled = life := by
  rw [settled, hready, List.foldl_nil, ← hready]

theorem happened_of_early (hearly : life.Early) (hready : life.ready = []) :
    life.happened = life := by
  rw [happened, drained_of_early hearly, settled_of_ready hready]

theorem later_later (life : Life) (first second : Nat) :
    (life.later first).later second = life.later (first + second) := by
  unfold later
  rw [List.map_map]
  refine congrArg (fun timers => { life with timers }) (List.map_congr_left fun timer _ => ?_)
  rw [Function.comp_apply, Nat.sub_sub]

theorem later_zero (life : Life) : life.later 0 = life := by
  unfold later
  have hid : life.timers.map (fun timer => { timer with due := timer.due - 0 }) = life.timers :=
    List.map_id _
  rw [hid]

theorem early_later {ms : Nat} (hafter : ∀ timer ∈ life.timers, ms < timer.due) :
    (life.later ms).Early := by
  intro timer hmem
  obtain ⟨before, hbefore, rfl⟩ := List.mem_map.1 hmem
  have hdue := hafter before hbefore
  dsimp only
  omega

/-- While nothing is due, the timers come nearer. -/
theorem iterate_tick_of_quiet {ms : Nat} (hafter : ∀ timer ∈ life.timers, ms < timer.due)
    (hready : life.ready = []) : tick^[ms] life = life.later ms := by
  induction ms with
  | zero => exact life.later_zero.symm
  | succ ms ih =>
    have hms := ih fun timer hmem => Nat.lt_of_succ_lt (hafter timer hmem)
    rw [Function.iterate_succ_apply', hms, tick, later_later]
    exact happened_of_early (early_later hafter) hready

/-- Before something happens, time only passes. -/
theorem iterate_tick_succ {ms : Nat} (hafter : ∀ timer ∈ life.timers, ms < timer.due)
    (hready : life.ready = []) : tick^[ms + 1] life = (life.later (ms + 1)).happened := by
  rw [Function.iterate_succ_apply', iterate_tick_of_quiet hafter hready, tick, later_later]

/-! ## What is due later -/

theorem Early.concluded (hearly : life.Early) (inquiry : Inquiry) (results : Results) :
    (life.concluded inquiry results).Early := by
  unfold Life.concluded
  split <;> exact hearly

theorem Early.insert (hearly : life.Early) {timer : Timer Event} (hdue : timer.due ≠ 0) :
    Early { life with timers := Clock.insertTimer timer life.timers } := by
  intro other hmem
  rcases List.mem_cons.1 ((Clock.insertTimer_perm _ _).mem_iff.1 hmem) with rfl | hmem
  · omega
  · exact hearly other hmem

theorem Early.filter (hearly : life.Early) (keeps : Timer Event → Bool) :
    Early { life with timers := life.timers.filter keeps } :=
  fun timer hmem => hearly timer (List.mem_of_mem_filter hmem)

theorem Early.asked (hearly : life.Early) (inquiry : Inquiry) : (life.asked inquiry).Early := by
  unfold Life.asked
  dsimp only
  split
  · exact hearly.concluded _ _
  · next hdelay => exact hearly.insert hdelay

theorem Early.settled (hearly : life.Early) : life.settled.Early :=
  List.foldlRecOn (motive := Early) life.ready Life.asked (b := { life with ready := [] }) hearly
    fun _ hearly inquiry _ => hearly.asked inquiry

theorem Early.evaluated (hearly : life.Early) : life.evaluated.Early := by
  unfold Life.evaluated
  split
  · exact hearly
  · exact hearly.filter _

theorem Early.again (hearly : life.Early) : life.again.Early := by
  have hcancelled : life.cancelled.Early := hearly.filter _
  exact hcancelled.evaluated

theorem Early.scheduled (hearly : life.Early) (delay : Nat) : (life.scheduled delay).Early := by
  have hcancelled : life.cancelled.Early := hearly.filter _
  unfold Life.scheduled
  split
  · exact hearly.again
  · next hdelay => exact hcancelled.insert hdelay

theorem early_of_timers (htimers : life.timers = []) : life.Early := by
  intro timer hmem
  rw [htimers] at hmem
  cases hmem

theorem Early.changed (hearly : life.Early) (value : Option String) : (life.changed value).Early := by
  unfold Life.changed
  split
  · exact hearly
  · refine Function.Iterate.rec Early ?_ (fun _ hafter => Early.again hafter) _
    split
    · exact hearly
    · exact Early.scheduled (by exact hearly) _

theorem Early.registered (hearly : life.Early) (registration : Registration) :
    (life.registered registration).Early := by
  unfold Life.registered
  split
  · exact hearly
  · split
    · exact hearly
    · exact (early_of_timers rfl).evaluated

theorem Early.ruled (hearly : life.Early) (rules : String) : (life.ruled rules).Early := by
  unfold Life.ruled
  split
  · exact hearly
  · split
    · exact hearly
    · dsimp only
      split
      · exact early_of_timers rfl
      · exact Early.evaluated (by exact hearly)

theorem Early.validated (hearly : life.Early) : life.validated.Early := by
  unfold Life.validated
  split
  · exact hearly
  · exact Early.again (by exact hearly)

theorem Early.switched (hearly : life.Early) (disabled : Bool) : (life.switched disabled).Early := by
  unfold Life.switched
  split
  · exact hearly
  · split
    · exact early_of_timers rfl
    · exact Early.evaluated (by exact hearly)

/-- No operation sets a timer that is due already. -/
theorem Early.perform (hearly : life.Early) (operation : Operation) :
    (life.perform operation).Early := by
  cases operation with
  | register registration => exact hearly.registered registration
  | unregister field => exact early_of_timers rfl
  | setRules field rules => exact hearly.ruled rules
  | setValue field value => exact hearly.changed (some value)
  | clearValue field => exact hearly.changed none
  | setDisabled field disabled => exact hearly.switched disabled
  | validate field => exact hearly.validated
  | _ => exact hearly

/-! ## Inquiries one by one -/

theorem asked_ready (life : Life) (inquiry : Inquiry) (ready : List Inquiry) :
    ({ life with ready } : Life).asked inquiry = { life.asked inquiry with ready } := by
  obtain ⟨name, config, translator, callbacks, values, state, entry, edges, timers, before⟩ := life
  unfold asked ask
  dsimp only
  split
  · cases state <;> rfl
  · rfl

theorem ready_asked (life : Life) (inquiry : Inquiry) :
    (life.asked inquiry).ready = life.ready := by
  have hready := congrArg Life.ready (life.asked_ready inquiry life.ready)
  exact hready

theorem settled_cons (life : Life) (inquiry : Inquiry) :
    ({ life with ready := inquiry :: life.ready } : Life).settled =
      (life.asked inquiry).settled := by
  rw [settled, settled, ready_asked, ← asked_ready]
  rfl

/-! ## Timers one by one -/

theorem length_timers_fired (life : Life) (event : Event) :
    (life.fired event).timers.length ≤ life.timers.length := by
  cases event with
  | evaluate field =>
    change life.evaluated.timers.length ≤ life.timers.length
    unfold evaluated
    split
    · exact Nat.le_refl _
    · exact List.length_filter_le _ _
  | reply inquiry results =>
    change (life.concluded inquiry results).timers.length ≤ life.timers.length
    unfold concluded
    split <;> exact Nat.le_refl _

end Life

namespace Context

variable {c c' d : Context} {field : String} {state : FieldState}

/-! ## What happens without delay -/

/-- An inquiry that does not matter to the field is asked. -/
theorem life_ask_of_unwanted (horderly : c.Orderly) {inquiry : Inquiry}
    (hunwanted : c.wants field inquiry = false) : (c.ask inquiry).life field = c.life field := by
  by_cases hinquiry : inquiry.field = field
  · unfold ask await
    dsimp only
    split
    · rw [conclude_of_unwanted (c := { c with asked := c.asked ++ c.requests inquiry }) hinquiry
        hunwanted]
      rfl
    · exact life_set_of_not (c := { c with asked := c.asked ++ c.requests inquiry }) none _ hunwanted
  · have huntouched := (changes_ask horderly (List.mem_singleton_self inquiry.field)).untouched
      horderly
    exact life_of_untouched huntouched (by simpa using Ne.symm hinquiry)
      (surroundings_ask horderly inquiry)

/-- An inquiry that matters to the field is asked. -/
theorem life_ask (hfind : c.fields.find? field = some state) (hname : state.name = field)
    (hfield : field ≠ "") (htimely : c.Timely) {inquiry : Inquiry}
    (hwanted : c.wants field inquiry = true) :
    (c.ask inquiry).life field = (c.life field).asked inquiry.unnumbered := by
  unfold ask await Life.asked
  dsimp only
  have hreplies : (inquiry.unnumbered.evaluation.pending.map fun check =>
      (check, (c.life field).ask check.callback inquiry.unnumbered.request)) =
    inquiry.evaluation.pending.map fun check =>
      (check, c.callbacks.ask check.callback inquiry.request) := rfl
  rw [hreplies]
  split
  · exact life_conclude (c := { c with asked := c.asked ++ c.requests inquiry }) hfind hname hfield
      hwanted _
  · exact life_set (c := { c with asked := c.asked ++ c.requests inquiry }) htimely.sorted none _
      hwanted

theorem exists_state_of_wants (hsound : c.Sound) {inquiry : Inquiry}
    (hwanted : c.wants field inquiry = true) :
    ∃ state, c.fields.find? field = some state ∧ state.name = field ∧ field ≠ "" := by
  obtain ⟨-, hcurrent⟩ := Bool.and_eq_true_iff.1 hwanted
  obtain ⟨state, hfind⟩ := hsound.exists_state_of_current (of_decide_eq_true hcurrent)
  exact ⟨state, hfind, hsound.orderly.named field state hfind⟩

/-- All that happens without delay is what happens in the life. -/
theorem life_settle (hreach : c.Reachable) : c.settle.life field = (c.life field).settled := by
  have hfold : ∀ (inquiries : List Inquiry) (c : Context),
      ({ c with ready := inquiries } : Context).Reachable →
        (inquiries.foldl ask { c with ready := [] }).life field =
          (({ c with ready := inquiries } : Context).life field).settled := by
    intro inquiries
    induction inquiries with
    | nil => exact fun c _ => (Life.settled_of_ready rfl).symm
    | cons inquiry rest ih =>
      intro c hreach
      have hnext : ({ c.ask inquiry with ready := rest } : Context).Reachable := by
        have hleads := leads_ask (c := { c with ready := inquiry :: rest }) inquiry rest rfl
        rw [ask_ready] at hleads
        exact hreach.leads hleads
      have hsound := hreach.sound
      have htimely : ({ c with ready := rest } : Context).Timely :=
        ⟨hreach.timely.sound, hreach.timely.sorted, fun inquiry hmem =>
          hreach.timely.numbered inquiry (List.mem_cons_of_mem _ hmem)⟩
      have horderly : ({ c with ready := rest } : Context).Orderly :=
        ⟨hsound.orderly.named, hsound.orderly.clock⟩
      rw [List.foldl_cons, ask_ready, ih (c.ask inquiry) hnext, ← ask_ready]
      by_cases hwanted : c.wants field inquiry = true
      · obtain ⟨state, hfind, hname, hfield⟩ := exists_state_of_wants hsound hwanted
        have hready : ({ c with ready := inquiry :: rest } : Context).life field =
            { ({ c with ready := rest } : Context).life field with
              ready := inquiry.unnumbered ::
                (({ c with ready := rest } : Context).life field).ready } := by
          ext1
          case ready =>
            change List.map _ (List.filter (c.wants field) (inquiry :: rest)) = _
            rw [List.filter_cons_of_pos hwanted]
            rfl
          all_goals rfl
        rw [life_ask (c := { c with ready := rest }) hfind hname hfield htimely hwanted, hready,
          Life.settled_cons]
      · have hunwanted : c.wants field inquiry = false := Bool.eq_false_iff.2 hwanted
        have hready : ({ c with ready := inquiry :: rest } : Context).life field =
            ({ c with ready := rest } : Context).life field := by
          ext1
          case ready =>
            change List.map _ (List.filter (c.wants field) (inquiry :: rest)) = _
            rw [List.filter_cons_of_neg hwanted]
            rfl
          all_goals rfl
        rw [life_ask_of_unwanted horderly hunwanted, hready]
  exact hfold c.ready c hreach

/-! ## What happens at one instant -/

theorem Timely.atInstant (htimely : c.Timely) {timers : List (Timer Event)}
    (hsub : timers.Sublist c.clock.timers) (now : Nat) : (c.atInstant now timers).Timely where
  sound := htimely.sound.sublist hsub now
  sorted := htimely.sorted.sublist hsub now
  numbered inquiry hmem := by
    refine htimely.numbered inquiry ?_
    rcases List.mem_append.1 hmem with hready | hasked
    · exact List.mem_append_left _ hready
    · exact List.mem_append_right _ ((hsub.filterMap _).subset hasked)

/-- An event that does not matter to the field happens. -/
theorem life_fire_of_not (horderly : c.Orderly) {event : Event}
    (hnot : c.awaits field event = false) : (c.fire event).life field = c.life field := by
  by_cases hevent : event.field = field
  · cases event with
    | evaluate other => exact absurd hevent (of_decide_eq_false hnot)
    | reply inquiry results =>
      rw [fire, conclude_of_unwanted hevent hnot]
  · have huntouched := (changes_fire horderly (List.mem_singleton_self event.field)).untouched
      horderly
    exact life_of_untouched huntouched (by simpa using Ne.symm hevent)
      (surroundings_fire horderly event)

/-- An event that matters to the field happens. -/
theorem life_fire (hfind : c.fields.find? field = some state) (hname : state.name = field)
    (hfield : field ≠ "") (htimely : c.Timely) {event : Event}
    (hawaits : c.awaits field event = true) :
    (c.fire event).life field = (c.life field).fired event.unnumbered := by
  cases event with
  | evaluate other =>
    obtain rfl : other = field := of_decide_eq_true hawaits
    exact (life_retain _).trans (life_evaluate hfind hname hfield htimely)
  | reply inquiry results => exact life_conclude hfind hname hfield hawaits results

theorem exists_state_of_awaits (hsound : c.Sound) {timer : Timer Event}
    (hmem : timer ∈ c.clock.timers) (hawaits : c.awaits field timer.event = true) :
    ∃ state, c.fields.find? field = some state ∧ state.name = field ∧ field ≠ "" := by
  rcases key_of_awaits hsound.regular.clock hmem hawaits with
    ⟨hkey, -⟩ | ⟨-, inquiry, -, -, hwanted⟩
  · have hpending : c.clock.isPending field = true :=
      List.any_eq_true.2 ⟨timer, hmem, by simpa using hkey⟩
    obtain ⟨state, hfind⟩ : ∃ state, c.fields.find? field = some state := by
      refine Option.ne_none_iff_exists'.1 fun hnone => ?_
      have hnot : c.clock.isPending field = false := (hsound.absent hnone).waiting
      rw [hpending] at hnot
      cases hnot
    exact ⟨state, hfind, hsound.orderly.named field state hfind⟩
  · exact exists_state_of_wants hsound hwanted

section Instant

variable {now : Nat} {timers : List (Timer Event)} {timer : Timer Event}

theorem life_atInstant_cons (hawaits : c.awaits field timer.event = true) :
    (c.atInstant now (timer :: timers)).life field =
      { (c.atInstant now timers).life field with
        timers := seen now timer :: ((c.atInstant now timers).life field).timers } := by
  ext1
  case timers =>
    change List.map (seen now) (List.filter _ (timer :: timers)) = _
    rw [List.filter_cons_of_pos (by exact hawaits)]
    rfl
  all_goals rfl

theorem life_atInstant_cons_of_not (hnot : c.awaits field timer.event = false) :
    (c.atInstant now (timer :: timers)).life field = (c.atInstant now timers).life field := by
  ext1
  case timers =>
    change List.map _ (List.filter (fun timer => c.awaits field timer.event) (timer :: timers)) = _
    rw [List.filter_cons_of_neg (by simp [hnot])]
    rfl
  all_goals rfl

theorem mem_timers_life {seenTimer : Timer Event} :
    seenTimer ∈ ((c.atInstant now timers).life field).timers ↔
      ∃ timer ∈ timers, c.awaits field timer.event = true ∧ seen now timer = seenTimer := by
  change seenTimer ∈ List.map _ (List.filter (fun timer => c.awaits field timer.event) timers) ↔ _
  simp only [List.mem_map, List.mem_filter, and_assoc]
  rfl

theorem early_life (hlater : ∀ timer ∈ timers, now < timer.due) :
    ((c.atInstant now timers).life field).Early := by
  intro seenTimer hmem
  obtain ⟨timer, htimer, -, rfl⟩ := mem_timers_life.1 hmem
  have hdue := hlater timer htimer
  dsimp only [seen]
  omega

/-- The timers that have run out have their effects one by one.  Those of other fields and
of earlier lives have none. -/
theorem life_foldl_fire (field : String) (hlater : ∀ timer ∈ timers, now < timer.due) :
    ∀ (due : List (Timer Event)) (c : Context), (c.atInstant now (due ++ timers)).Reachable →
      (∀ timer ∈ due, timer.due ≤ now) → ∀ fuel,
        ((c.atInstant now (due ++ timers)).life field).timers.length ≤ fuel →
          ((due.map (·.event)).foldl fire (c.atInstant now timers)).life field =
            ((c.atInstant now (due ++ timers)).life field).drained fuel := by
  intro due
  induction due with
  | nil => exact fun c _ _ fuel _ => (Life.drained_of_early (early_life hlater) fuel).symm
  | cons timer rest ih =>
    intro c hreach hdue fuel hfuel
    have hsound := hreach.sound
    have hmem : timer ∈ (c.atInstant now (timer :: rest ++ timers)).clock.timers :=
      List.mem_cons_self
    have hsub : (rest ++ timers).Sublist (c.atInstant now (timer :: rest ++ timers)).clock.timers :=
      List.sublist_cons_self _ _
    have htimely : (c.atInstant now (rest ++ timers)).Timely := hreach.timely.atInstant hsub now
    have horderly : (c.atInstant now (rest ++ timers)).Orderly :=
      ⟨hsound.orderly.named, htimely.sound⟩
    have hcommute : ∀ timers, (c.atInstant now timers).fire timer.event =
        (c.fire timer.event).atInstant now timers :=
      fun timers => fire_clock c ⟨now, timers⟩ timer.event
    have hnext : ((c.fire timer.event).atInstant now (rest ++ timers)).Reachable := by
      have htimers : (c.atInstant now (timer :: rest ++ timers)).clock.timers =
          [] ++ timer :: (rest ++ timers) := rfl
      have hfire := Next.fire htimers
      rw [← hcommute]
      exact hreach.leads (.single hfire)
    have hrest : ∀ timer ∈ rest, timer.due ≤ now :=
      fun other hother => hdue other (List.mem_cons_of_mem _ hother)
    rw [List.map_cons, List.foldl_cons, hcommute]
    by_cases hawaits : c.awaits field timer.event = true
    · obtain ⟨state, hfind, hname, hfield⟩ := exists_state_of_awaits hsound hmem hawaits
      have hfired := life_fire (c := c.atInstant now (rest ++ timers)) hfind hname hfield htimely
        hawaits
      have hnow : (seen now timer).due = 0 := Nat.sub_eq_zero_of_le (hdue timer List.mem_cons_self)
      rw [List.cons_append, life_atInstant_cons hawaits] at hfuel ⊢
      rw [hcommute] at hfired
      cases fuel with
      | zero => simp at hfuel
      | succ fuel =>
        have hlength := Life.length_timers_fired
          ((c.atInstant now (rest ++ timers)).life field) timer.event.unnumbered
        rw [← hfired] at hlength
        have hcount := Nat.le_of_succ_le_succ hfuel
        rw [ih (c.fire timer.event) hnext hrest fuel (hlength.trans hcount), hfired, Life.drained]
        exact (if_pos hnow).symm
    · have hnot : c.awaits field timer.event = false := Bool.eq_false_iff.2 hawaits
      have hfired := life_fire_of_not (c := c.atInstant now (rest ++ timers)) horderly hnot
      rw [hcommute] at hfired
      rw [List.cons_append, life_atInstant_cons_of_not hnot] at hfuel ⊢
      rw [ih (c.fire timer.event) hnext hrest fuel (by rwa [hfired]), hfired]

end Instant

/-- What happens at an instant is what happens in the life, seen from this instant. -/
theorem life_moveTo (hreach : c.Reachable) (instant : Nat) :
    (c.moveTo instant).life field =
      ((c.atInstant instant c.clock.timers).life field).happened := by
  have hwait : (c.atInstant instant c.clock.timers).Reachable :=
    hreach.leads (.single (.wait instant))
  have hsplit := List.takeWhile_append_dropWhile (p := fun timer : Timer Event =>
    decide (timer.due ≤ instant)) (l := c.clock.timers)
  have hdue : ∀ timer ∈ c.clock.timers.takeWhile (·.due ≤ instant), timer.due ≤ instant :=
    fun timer hmem => Clock.due_le_of_mem_takeWhile hmem
  have hlater := hreach.sorted.due_lt_of_mem_dropWhile instant
  have hbatch := life_foldl_fire field hlater
    (c.clock.timers.takeWhile (·.due ≤ instant)) c
  have hleads := leads_fire instant (c.clock.timers.dropWhile (·.due ≤ instant))
    (c.clock.timers.takeWhile (·.due ≤ instant)) c
  rw [hsplit] at hbatch hleads
  unfold Life.happened
  rw [← hbatch hwait hdue _ (Nat.le_refl _)]
  exact life_settle (hwait.leads hleads)

/-! ## Time that passes -/

/-- A timer looks nearer from a later instant. -/
theorem life_atInstant_add (c : Context) (now ms : Nat) (timers : List (Timer Event)) :
    (c.atInstant (now + ms) timers).life field =
      ((c.atInstant now timers).life field).later ms := by
  ext1
  case timers =>
    change List.map (seen (now + ms)) _ = List.map _ (List.map (seen now) _)
    rw [List.map_map]
    refine List.map_congr_left fun timer _ => ?_
    simp only [Function.comp_apply, seen, Nat.sub_sub]
  all_goals rfl

theorem ready_life (hready : c.ready = []) : (c.life field).ready = [] := by
  unfold life
  rw [hready]
  rfl

/-- Until the first instant at which something is due, time only passes. -/
theorem life_moveTo_of_quiet (hreach : c.Reachable) (hready : c.ready = []) {base instant : Nat}
    (hbase : base ≤ instant) (hearly : ((c.atInstant base c.clock.timers).life field).Early)
    (hlater : ∀ timer ∈ c.clock.timers, instant ≤ timer.due) :
    (c.moveTo instant).life field =
      Life.tick^[instant - base] ((c.atInstant base c.clock.timers).life field) := by
  have hnone : ((c.atInstant base c.clock.timers).life field).ready = [] := ready_life hready
  obtain ⟨ms, rfl⟩ := Nat.exists_eq_add_of_le hbase
  rw [life_moveTo hreach, Nat.add_sub_cancel_left, life_atInstant_add]
  cases ms with
  | zero =>
    rw [Life.later_zero, Life.happened_of_early hearly hnone]
    rfl
  | succ ms =>
    refine (Life.iterate_tick_succ ?_ hnone).symm
    intro seenTimer hmem
    obtain ⟨timer, htimer, -, rfl⟩ := mem_timers_life.1 hmem
    have hdue := hlater timer htimer
    dsimp only [seen]
    omega

/-- Instants before the present one, at which other fields have something due, do not
matter to the life. -/
theorem life_moveTo_of_past (hreach : c.Reachable) (hready : c.ready = []) {base instant : Nat}
    (hpast : instant ≤ base) (hearly : ((c.atInstant base c.clock.timers).life field).Early) :
    ((c.moveTo instant).atInstant base (c.moveTo instant).clock.timers).life field =
      (c.atInstant base c.clock.timers).life field := by
  obtain ⟨ms, rfl⟩ := Nat.exists_eq_add_of_le hpast
  have hearly' : ((c.atInstant instant c.clock.timers).life field).Early := by
    intro seenTimer hmem
    obtain ⟨timer, htimer, hawaits, rfl⟩ := mem_timers_life.1 hmem
    have hdue : 0 < timer.due - (instant + ms) :=
      hearly _ (mem_timers_life.2 ⟨timer, htimer, hawaits, rfl⟩)
    dsimp only [seen]
    omega
  rw [life_atInstant_add, life_atInstant_add, (ahead_moveTo hreach.sorted instant).atInstant,
    life_moveTo hreach, Life.happened_of_early hearly' (ready_life hready)]

/-- The time that passes in the context passes in the life. -/
theorem Passes.life {instant : Nat} (hpasses : Passes instant c c') (field : String) :
    ∀ base : Nat, c.Reachable → c.ready = [] → base ≤ instant →
      ((c.atInstant base c.clock.timers).life field).Early →
        c'.life field =
          Life.tick^[instant - base] ((c.atInstant base c.clock.timers).life field) := by
  induction hpasses with
  | last hlater =>
    intro base hreach hready hbase hearly
    exact life_moveTo_of_quiet hreach hready hbase hearly hlater
  | @next c c' due hdue hbefore hrest ih =>
    intro base hreach hready hbase hearly
    have hnext : (c.moveTo due).Reachable := hreach.leads (leads_moveTo c due)
    have hsettled : (c.moveTo due).ready = [] := ready_settle _
    rcases Nat.le_total due base with hpast | hfuture
    · have hlife := life_moveTo_of_past hreach hready hpast hearly
      have hrest := ih base hnext hsettled hbase (by rwa [hlife])
      rw [hrest, hlife]
    · have hahead := ahead_moveTo hreach.sorted due
      have hlife := life_moveTo_of_quiet hreach hready hfuture hearly
        (le_of_nextDue? hreach.sorted hdue)
      have hrest := ih due hnext hsettled hbefore.le (early_life hahead.2)
      have hsum : instant - base = (instant - due) + (due - base) := by omega
      rw [hrest, hahead.atInstant, hlife, hsum, Function.iterate_add_apply]

theorem life_advance (hreach : c.Reachable) (hready : c.ready = [])
    (hearly : (c.life field).Early) (ms : Nat) :
    (c.advance ms).life field = Life.tick^[ms] (c.life field) := by
  have hpasses := passes_advance hreach hready ms
  have hlife := hpasses.life field c.clock.now hreach hready (Nat.le_add_right _ _) hearly
  rw [Nat.add_sub_cancel_left] at hlife
  exact hlife

/-! ## Operations one after the other -/

/-- A context between two operations: nothing is due, and no inquiry is ready. -/
structure Rested (c : Context) (field : String) : Prop where
  reachable : c.Reachable
  ready : c.ready = []
  early : (c.life field).Early

/-- A step of the context is a step of the life. -/
theorem life_step (hrested : c.Rested field) {operation : Operation}
    (habout : operation.About field) :
    (c.step operation).1.life field = (c.life field).step operation := by
  have hreach := hrested.reachable
  by_cases hadvance : ∃ ms, operation = .advance ms
  · obtain ⟨ms, rfl⟩ := hadvance
    have hadvanced := life_advance hreach hrested.ready hrested.early ms
    change (c.advance ms).settle.life field = (Life.tick^[ms] (c.life field)).settled
    rw [life_settle (hreach.leads (leads_advance c ms)), hadvanced]
  · have hnow : ∀ ms, operation ≠ .advance ms := fun ms heq => hadvance ⟨ms, heq⟩
    change (c.perform operation).1.settle.life field = _
    rw [life_settle (hreach.perform hnow), life_perform hreach habout hnow, Life.step]
    cases operation with
    | advance ms => exact absurd rfl (hnow ms)
    | _ => rfl

theorem Rested.step (hrested : c.Rested field) {operation : Operation}
    (habout : operation.About field) : (c.step operation).1.Rested field where
  reachable := hrested.reachable.leads (leads_step c operation)
  ready := ready_settle _
  early := by
    by_cases hadvance : ∃ ms, operation = .advance ms
    · obtain ⟨ms, rfl⟩ := hadvance
      have hpasses := passes_advance hrested.reachable hrested.ready ms
      have hstep : (c.step (.advance ms)).1 = c.advance ms := settle_of_ready hpasses.ready
      have hahead := hpasses.ahead hrested.reachable
      have hearly : (((c.advance ms).atInstant (c.clock.now + ms)
          (c.advance ms).clock.timers).life field).Early := early_life hahead.2
      rw [hstep]
      rwa [hahead.atInstant] at hearly
    · rw [life_step hrested habout, Life.step]
      refine Life.Early.settled ?_
      cases operation with
      | advance ms => exact absurd ⟨ms, rfl⟩ hadvance
      | _ => exact hrested.early.perform _

/-- A run of the context is a run of the life. -/
theorem life_run (operations : List Operation) : ∀ {c : Context}, c.Rested field →
    (∀ operation ∈ operations, operation.About field) →
      (c.run operations).life field = operations.foldl Life.step (c.life field) := by
  induction operations with
  | nil => exact fun _ _ => rfl
  | cons operation rest ih =>
    intro c hrested habout
    have hfirst := habout operation List.mem_cons_self
    have hrest := ih (hrested.step hfirst) fun other hmem => habout other (List.mem_cons_of_mem _ hmem)
    rw [List.foldl_cons, ← life_step hrested hfirst]
    exact hrest

end Context

end FieldRules
