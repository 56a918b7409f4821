import Mathlib.Logic.Relation
import FieldRules.Context.Step
import FieldRules.Proofs.Clock

/-!
# What can happen to a context

`Context.Next` lets one thing happen: an operation, a question to the callbacks
of an inquiry, the end of a timer, or the passing of time.  The callbacks may
reply anything, they may take any time, and a timer may run out at any instant
and in any order with the others.  Between two operations any number of these
may happen, also none.

* `Reachable`: the contexts that come out of this.
* `leads_step`: an operation together with all that follows without delay is
  made of such happenings, and so is the advance of the clock.  Hence all runs
  of operations stay among the reachable contexts (`Reachable.run`).
-/

namespace FieldRules

namespace Context

/-! ## Happenings -/

/-- The context in which the callbacks of an inquiry have been asked and are
going to reply. -/
def listen (c : Context) (inquiry : Inquiry) (replies : Replies) : Context :=
  { c with
    asked := c.asked ++ c.requests inquiry
    clock := c.clock.set none replies.delay (.reply inquiry replies.results) }

/-- The context at an instant with the given timers. -/
def atInstant (c : Context) (now : Nat) (timers : List (Timer Event)) : Context :=
  { c with clock := ⟨now, timers⟩ }

/-- One thing that happens to a context. -/
inductive Next (c : Context) : Context → Prop where
  | operation (operation : Operation) (hnow : ∀ ms, operation ≠ .advance ms) :
      Next c (c.perform operation).1
  | ask {before after : List Inquiry} {inquiry : Inquiry}
      (hready : c.ready = before ++ inquiry :: after) (replies : Replies)
      (hreplies : replies.map (·.1) = inquiry.evaluation.pending) :
      Next c ({ c with ready := before ++ after }.listen inquiry replies)
  | fire {before after : List (Timer Event)} {timer : Timer Event}
      (htimers : c.clock.timers = before ++ timer :: after) :
      Next c ((c.atInstant c.clock.now (before ++ after)).fire timer.event)
  | wait (now : Nat) : Next c (c.atInstant now c.clock.timers)

/-- Some things that happen one after the other. -/
abbrev Leads : Context → Context → Prop :=
  Relation.ReflTransGen Next

/-- A context that comes from an empty one. -/
def Reachable (c : Context) : Prop :=
  ∃ translator config callbacks, Leads (start translator config callbacks) c

theorem Reachable.start (translator : Message.Translator) (config : EngineConfig)
    (callbacks : Callbacks) : (start translator config callbacks).Reachable :=
  ⟨translator, config, callbacks, .refl⟩

theorem Reachable.leads {c c' : Context} (hreach : c.Reachable) (hleads : c.Leads c') :
    c'.Reachable := by
  obtain ⟨translator, config, callbacks, hstart⟩ := hreach
  exact ⟨translator, config, callbacks, hstart.trans hleads⟩

/-! ## What ready inquiries and timers do not matter to -/

variable (c : Context)

theorem store_ready (ready : List Inquiry) (state : FieldState) :
    { c with ready }.store state = ({ (c.store state).1 with ready }, (c.store state).2) := by
  simp only [store, put]
  cases c.summary.follow state <;> rfl

theorem store_clock (clock : Clock Event) (state : FieldState) :
    { c with clock }.store state = ({ (c.store state).1 with clock }, (c.store state).2) := by
  simp only [store, put]
  cases c.summary.follow state <;> rfl

theorem retain_ready (ready : List Inquiry) (result : Except ConfigError Unit) :
    { c with ready }.retain result = { c.retain result with ready } := by
  cases result <;> rfl

theorem retain_clock (clock : Clock Event) (result : Except ConfigError Unit) :
    { c with clock }.retain result = { c.retain result with clock } := by
  cases result <;> rfl

theorem applyVerdict_ready (ready : List Inquiry) (state : FieldState) (e : Evaluation)
    (verdict : Except ConfigError Verdict) :
    { c with ready }.applyVerdict state e verdict =
      { c.applyVerdict state e verdict with ready } := by
  cases verdict <;> simp only [applyVerdict, store_ready, retain_ready, engine]

theorem applyVerdict_clock (clock : Clock Event) (state : FieldState) (e : Evaluation)
    (verdict : Except ConfigError Verdict) :
    { c with clock }.applyVerdict state e verdict =
      { c.applyVerdict state e verdict with clock } := by
  cases verdict <;> simp only [applyVerdict, store_clock, retain_clock, engine]

theorem conclude_ready (ready : List Inquiry) (inquiry : Inquiry) (results : Results) :
    { c with ready }.conclude inquiry results = { c.conclude inquiry results with ready } := by
  simp only [conclude]
  split
  · cases c.fields.find? inquiry.field with
    | none => rfl
    | some state => exact applyVerdict_ready (c.note _) ready state _ _
  · rfl

theorem conclude_clock (clock : Clock Event) (inquiry : Inquiry) (results : Results) :
    { c with clock }.conclude inquiry results = { c.conclude inquiry results with clock } := by
  simp only [conclude]
  split
  · cases c.fields.find? inquiry.field with
    | none => rfl
    | some state => exact applyVerdict_clock (c.note _) clock state _ _
  · rfl

theorem await_ready (ready : List Inquiry) (inquiry : Inquiry) (replies : Replies) :
    { c with ready }.await inquiry replies = { c.await inquiry replies with ready } := by
  simp only [await]
  split
  · exact conclude_ready c ready inquiry _
  · rfl

theorem ask_ready (ready : List Inquiry) (inquiry : Inquiry) :
    { c with ready }.ask inquiry = { c.ask inquiry with ready } :=
  await_ready { c with asked := c.asked ++ c.requests inquiry } ready inquiry _

theorem applyEvaluation_clock (clock : Clock Event) (state : FieldState) (value : Option String)
    (generation : Nat) (e : Evaluation) :
    { c with clock }.applyEvaluation state value generation e =
      ({ (c.applyEvaluation state value generation e).1 with clock },
        (c.applyEvaluation state value generation e).2) := by
  unfold applyEvaluation
  dsimp only [depend]
  split
  · rfl
  · split
    · unfold store
      dsimp only [put]
      cases c.summary.follow _ <;> rfl
    · exact store_clock (c.depend state.name e.dependencies) clock _

theorem applyFailure_clock (clock : Clock Event) (state : FieldState) (value : Option String) :
    { c with clock }.applyFailure state value = { c.applyFailure state value with clock } := by
  unfold applyFailure
  rw [store_clock]
  exact retain_clock _ clock _

theorem applyResult_clock (clock : Clock Event) (state : FieldState) (value : Option String)
    (generation : Nat) (result : Except ConfigError Evaluation) :
    { c with clock }.applyResult state value generation result =
      ({ (c.applyResult state value generation result).1 with clock },
        (c.applyResult state value generation result).2) := by
  cases result with
  | ok e => exact applyEvaluation_clock c clock state value generation e
  | error e => exact Prod.ext (applyFailure_clock c clock state value) rfl

theorem evaluate_clock (clock : Clock Event) (field : String) :
    { c with clock }.evaluate field =
      ({ (c.evaluate field).1 with clock }, (c.evaluate field).2) := by
  unfold evaluate
  dsimp only
  cases c.fields.find? field with
  | none => rfl
  | some state =>
    exact applyResult_clock ({ c with generations := (c.generations.begin field).1 }.note _) clock
      state _ _ _

theorem fire_clock (clock : Clock Event) (event : Event) :
    { c with clock }.fire event = { c.fire event with clock } := by
  cases event with
  | evaluate field => simp only [fire, evaluateUnseen, evaluate_clock, retain_clock]
  | reply inquiry results => exact conclude_clock c clock inquiry results

/-! ## Runs of operations -/

variable {c}

/-- Without a delay an inquiry is concluded at once, as if by a timer that runs
out immediately. -/
theorem leads_await (inquiry : Inquiry) (replies : Replies)
    (hreplies : replies.map (·.1) = inquiry.evaluation.pending) (rest : List Inquiry)
    (hready : c.ready = inquiry :: rest) :
    c.Leads { { c with asked := c.asked ++ c.requests inquiry }.await inquiry replies with
      ready := rest } := by
  have hask : c.Leads ({ c with ready := rest }.listen inquiry replies) :=
    .single (.ask (show c.ready = [] ++ inquiry :: rest from hready) replies hreplies)
  rw [← await_ready]
  unfold await
  split
  -- the timer that has just been set runs out before any other
  · obtain ⟨before, after, htimers, hinsert⟩ := Clock.insertTimer_eq_append
      ⟨c.clock.now + replies.delay, none, .reply inquiry replies.results⟩ c.clock.timers
    refine hask.tail ?_
    have hfire := Next.fire (c := { c with ready := rest }.listen inquiry replies) hinsert
    rwa [← htimers] at hfire
  · exact hask

theorem leads_ask (inquiry : Inquiry) (rest : List Inquiry) (hready : c.ready = inquiry :: rest) :
    c.Leads { c.ask inquiry with ready := rest } := by
  refine leads_await inquiry _ ?_ rest hready
  rw [List.map_map]
  exact List.map_id _

theorem leads_settle (c : Context) : c.Leads c.settle := by
  have hfold : ∀ (inquiries : List Inquiry) (c : Context),
      Leads { c with ready := inquiries } (inquiries.foldl ask { c with ready := [] }) := by
    intro inquiries
    induction inquiries with
    | nil => exact fun c => .refl
    | cons inquiry rest ih =>
      intro c
      have hask := leads_ask (c := { c with ready := inquiry :: rest }) inquiry rest rfl
      rw [ask_ready] at hask
      rw [List.foldl_cons, ask_ready]
      exact hask.trans (ih (c.ask inquiry))
  exact hfold c.ready c

theorem leads_fire (now : Nat) (timers : List (Timer Event)) :
    ∀ (due : List (Timer Event)) (c : Context),
      Leads (c.atInstant now (due ++ timers))
        ((due.map (·.event)).foldl fire (c.atInstant now timers)) := by
  intro due
  induction due with
  | nil => exact fun c => .refl
  | cons timer rest ih =>
    intro c
    have htimers : (c.atInstant now (timer :: rest ++ timers)).clock.timers =
        [] ++ timer :: (rest ++ timers) := rfl
    have hfire : Next (c.atInstant now (timer :: rest ++ timers))
        ((c.atInstant now (rest ++ timers)).fire timer.event) := by
      have hnext := Next.fire htimers
      exact hnext
    have hcommute : ∀ timers, (c.atInstant now timers).fire timer.event =
        (c.fire timer.event).atInstant now timers :=
      fun timers => fire_clock c ⟨now, timers⟩ timer.event
    rw [hcommute] at hfire
    rw [List.map_cons, List.foldl_cons, hcommute]
    exact .head hfire (ih (c.fire timer.event))

theorem leads_moveTo (c : Context) (instant : Nat) : c.Leads (c.moveTo instant) := by
  have hwait : c.Leads (c.atInstant instant c.clock.timers) := .single (.wait instant)
  have hfire := leads_fire instant (c.clock.timers.dropWhile (·.due ≤ instant))
    (c.clock.timers.takeWhile (·.due ≤ instant)) c
  rw [List.takeWhile_append_dropWhile] at hfire
  exact (hwait.trans hfire).trans (leads_settle _)

theorem leads_advance (c : Context) (ms : Nat) : c.Leads (c.advance ms) := by
  have hto : ∀ (instant fuel : Nat) (c : Context), c.Leads (advanceTo instant fuel c) := by
    intro instant fuel
    induction fuel with
    | zero => exact fun c => leads_moveTo c instant
    | succ fuel ih =>
      intro c
      rw [advanceTo]
      cases c.clock.nextDue? with
      | none => exact leads_moveTo c instant
      | some due =>
        dsimp only
        split
        · exact (leads_moveTo c due).trans (ih _)
        · exact leads_moveTo c instant
  exact hto _ _ c

/-- A step is made of happenings. -/
theorem leads_step (c : Context) (operation : Operation) : c.Leads (c.step operation).1 := by
  have hperform : c.Leads (c.perform operation).1 := by
    cases operation with
    | advance ms => exact leads_advance c ms
    | _ => exact .single (.operation _ nofun)
  exact hperform.trans (leads_settle _)

theorem leads_run (c : Context) (operations : List Operation) : c.Leads (c.run operations) := by
  induction operations generalizing c with
  | nil => exact .refl
  | cons operation rest ih => exact (leads_step c operation).trans (ih _)

/-- All runs of operations stay among the reachable contexts. -/
theorem Reachable.run (hreach : c.Reachable) (operations : List Operation) :
    (c.run operations).Reachable :=
  hreach.leads (leads_run c operations)

end Context

end FieldRules
