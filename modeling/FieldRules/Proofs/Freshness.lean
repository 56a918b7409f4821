import FieldRules.Proofs.EnglishMessages
import FieldRules.Proofs.PlainChains
import FieldRules.Proofs.Staleness

/-!
# What is stored about a field is up to date

As long as all messages can be found, a field with a plain chain either waits for
an evaluation or stores what an evaluation of its current value by its current
rules finds.

* `not_fails_of_covers`: with a text for every message every evaluation succeeds.
* `View.Fresh`: a field is up to date unless it waits.
* `Fresh.move`: every move keeps this.
-/

namespace FieldRules

/-! ## No evaluation fails -/

namespace Engine

variable {engine : Engine} {state : FieldState}

/-- With a text for every message every evaluation succeeds. -/
theorem not_fails_of_covers (hcovers : engine.translator.Covers) : ¬ engine.Fails := by
  rintro ⟨state, value, others, error, ⟨compiled, hcompile, hvalidators, -⟩, herror⟩
  obtain ⟨e, he⟩ := exists_evaluate_of_covers hcovers hcompile hvalidators value others
  rw [he] at herror
  cases herror

theorem not_fails_of_english (henglish : engine.translator = Message.english.translator) :
    ¬ engine.Fails :=
  not_fails_of_covers (henglish ▸ Message.english_covers)

theorem exists_evaluate (hfine : ¬ engine.Fails) (hcompiled : state.Compiled)
    (value : Option String) (others : String → Option String) :
    ∃ e, engine.evaluate state value others = .ok e := by
  cases heval : engine.evaluate state value others with
  | error error => exact absurd ⟨state, value, others, error, hcompiled, heval⟩ hfine
  | ok e => exact ⟨e, rfl⟩

end Engine

/-! ## What evaluations store -/

namespace FieldState

variable {state other : FieldState}

theorem Idle.congr (hsetup : other.setup = state.setup) : other.Idle ↔ state.Idle :=
  iff_of_eq (congr_setup (f := Idle) (fun _ => rfl) hsetup)

theorem Plain.congr (hsetup : other.setup = state.setup) : other.Plain ↔ state.Plain :=
  iff_of_eq (congr_setup (f := Plain) (fun _ => rfl) hsetup)

/-- A field that is not validated has nothing to ask. -/
theorem not_idle_of_not_plain (hplain : ¬ state.Plain) (hdisabled : state.disabled = false) :
    ¬ state.Idle := by
  rintro (h | h)
  · rw [hdisabled] at h
    cases h
  · refine hplain fun v hmem => ?_
    rw [h] at hmem
    cases hmem

/-- A field that is validated goes on showing so. -/
theorem showing_ne_cancelled {status : Status} (hactive : state.status ≠ .cancelled)
    (hstatus : status ≠ .cancelled) : (state.showing status).status ≠ .cancelled := by
  unfold showing
  split
  · exact hstatus
  · exact hactive

theorem record_ne_cancelled (hactive : state.status ≠ .cancelled) (valid : Bool)
    (message : String) : (state.record valid message).status ≠ .cancelled := by
  refine showing_ne_cancelled hactive ?_
  cases valid <;> exact nofun

variable {value : Option String} {generation : Nat} {e : Evaluation}

theorem evaluated_of_idle (hidle : state.Idle) :
    state.evaluated value generation (.ok e) =
      { state with lastValue := value, generation := none, valid := true, message := "" } := by
  rw [evaluated]
  dsimp only
  rw [if_pos (state.idle_iff.1 hidle)]
  rfl

theorem evaluated_of_awaiting (hidle : ¬ state.Idle) (hawaiting : e.isAwaiting = true) :
    state.evaluated value generation (.ok e) =
      { state with
        lastValue := value
        valid := false
        message := e.message
        generation := some generation }.showing .awaitingRemote := by
  rw [evaluated]
  dsimp only
  rw [if_neg (state.idle_iff.not.1 hidle), if_pos hawaiting]

theorem evaluated_of_final (hidle : ¬ state.Idle) (hawaiting : e.isAwaiting = false) :
    state.evaluated value generation (.ok e) =
      { state with lastValue := value, generation := none }.record e.valid e.message := by
  rw [evaluated]
  dsimp only
  rw [if_neg (state.idle_iff.not.1 hidle), if_neg (Bool.eq_false_iff.1 hawaiting)]

theorem evaluated_ne_cancelled (hidle : ¬ state.Idle) (hactive : state.status ≠ .cancelled) :
    (state.evaluated value generation (.ok e)).status ≠ .cancelled := by
  cases hawaiting : e.isAwaiting with
  | true =>
    rw [evaluated_of_awaiting hidle hawaiting]
    refine showing_ne_cancelled ?_ nofun
    exact hactive
  | false =>
    rw [evaluated_of_final hidle hawaiting]
    refine record_ne_cancelled ?_ _ _
    exact hactive

theorem launched_of_idle (hidle : state.Idle) : state.launched value generation (.ok e) = [] := by
  rw [launched, state.idle_iff.1 hidle]
  rfl

theorem launched_of_final (hawaiting : e.isAwaiting = false) :
    state.launched value generation (.ok e) = [] := by
  rw [launched, hawaiting, Bool.not_false, Bool.or_true]
  rfl

theorem concluded_ne_cancelled (hactive : state.status ≠ .cancelled) (engine : Engine)
    (e : Evaluation) (verdict : Except ConfigError Verdict) :
    (state.concluded engine e verdict).status ≠ .cancelled := by
  cases verdict <;>
    · refine record_ne_cancelled ?_ _ _
      exact hactive

theorem revealed_ne_cancelled (hactive : state.status ≠ .cancelled) :
    state.revealed.status ≠ .cancelled := by
  unfold revealed
  split
  · exact hactive
  · refine showing_ne_cancelled hactive ?_
    split <;> exact nofun

theorem revealed_eq (state : FieldState) :
    state.revealed =
      { state with touched := state.revealed.touched, status := state.revealed.status } := by
  unfold revealed
  split
  · rfl
  · rw [showing_eq]

/-! ### Showing that a field is not validated -/

theorem resumedStatus_ne_cancelled (state : FieldState) : state.resumedStatus ≠ .cancelled := by
  unfold resumedStatus
  split <;> exact nofun

theorem ruled_cancelled_iff (hcancelled : state.status = .cancelled ↔ state.Idle) (rules : String)
    {compiled : Rule.Compiled} (hrules : compiled.validators ≠ []) :
    (state.ruled rules compiled).status = .cancelled ↔ (state.ruled rules compiled).Idle := by
  have hidle : (state.ruled rules compiled).Idle ↔ state.disabled = true :=
    or_iff_left hrules
  rw [hidle]
  unfold ruled withRules
  dsimp only
  cases hdisabled : state.disabled with
  | true => simp [hcancelled.2 (.inl hdisabled)]
  | false =>
    by_cases hstatus : state.status = .cancelled
    · simp [hstatus, resumedStatus_ne_cancelled]
    · simp [hstatus]

theorem enabled_cancelled_iff (hcancelled : state.status = .cancelled ↔ state.Idle) :
    state.enabled.status = .cancelled ↔ state.enabled.Idle := by
  have hidle : state.enabled.Idle ↔ state.validators = [] :=
    or_iff_right Bool.false_ne_true
  rw [hidle]
  unfold enabled
  dsimp only
  cases hvalidators : state.validators with
  | nil => simp [hcancelled.2 (.inr hvalidators)]
  | cons v rest => simp [resumedStatus_ne_cancelled]

theorem changed_cancelled_iff (hcancelled : state.status = .cancelled ↔ state.Idle) :
    state.changed.status = .cancelled ↔ state.changed.Idle := by
  have hstatus : state.changed.status = .cancelled ↔ state.status = .cancelled := by
    unfold changed
    by_cases h : state.status = .cancelled <;> simp [h]
  exact hstatus.trans hcancelled

theorem renewed_cancelled_iff (hcancelled : state.status = .cancelled ↔ state.Idle)
    (touched : Bool) :
    (state.renewed touched).status = .cancelled ↔ (state.renewed touched).Idle := by
  have hstatus : (state.renewed touched).status = .cancelled ↔ state.status = .cancelled := by
    unfold renewed markValid
    by_cases h : state.status = .cancelled <;> simp [h]
  exact hstatus.trans hcancelled

end FieldState

theorem Registration.state_cancelled_iff (registration : Registration) (compiled : Rule.Compiled)
    (config : EngineConfig) :
    (registration.state compiled config).status = .cancelled ↔
      (registration.state compiled config).Idle := by
  have hidle : (registration.state compiled config).Idle ↔ compiled.validators = [] :=
    or_iff_right Bool.false_ne_true
  rw [hidle]
  unfold Registration.state FieldState.fresh
  dsimp only
  cases compiled.validators <;> simp

/-! ## Up to date unless waiting -/

namespace View

variable {engine : Engine} {field : String} {v w : View} {state other : FieldState}
  {others : String → Option String} {e : Evaluation}

/-- A field shows that it is not validated, and is valid then.  A plain chain
that does not wait has been evaluated with the current value.  A reply is only
wanted by a chain that asks. -/
structure Fresh (engine : Engine) (v : View) (state : FieldState) : Prop where
  cancelled_iff : state.status = .cancelled ↔ state.Idle
  resting : state.Idle → state.valid = true ∧ state.message = ""
  upToDate : v.waiting = false → state.Plain → ∀ others e,
    engine.evaluate state v.value others = .ok e → state.valid = e.valid ∧ state.message = e.message
  wanted : ∀ inquiry ∈ v.inquiries, v.current = some inquiry.generation →
    state.disabled = false ∧ ¬ state.Plain

/-- An invalid field is validated. -/
theorem Fresh.not_idle_of_invalid (hfresh : v.Fresh engine state) (hinvalid : state.valid = false) :
    ¬ state.Idle := by
  intro hidle
  rw [(hfresh.resting hidle).1] at hinvalid
  cases hinvalid

/-- A field of which a reply is wanted is validated. -/
theorem Fresh.not_idle_of_wanted (hfresh : v.Fresh engine state) {inquiry : Inquiry}
    (hmem : inquiry ∈ v.inquiries) (hcurrent : v.current = some inquiry.generation) :
    ¬ state.Idle := by
  obtain ⟨hdisabled, hplain⟩ := hfresh.wanted inquiry hmem hcurrent
  exact FieldState.not_idle_of_not_plain hplain hdisabled

/-- A field whose validation stops is up to date: it is valid. -/
theorem Fresh.of_idle (hidle : state.Idle) (hcancelled : state.status = .cancelled)
    (hvalid : state.valid = true) (hmessage : state.message = "")
    (hunwanted : ∀ inquiry ∈ v.inquiries, v.current ≠ some inquiry.generation) :
    v.Fresh engine state where
  cancelled_iff := iff_of_true hcancelled hidle
  resting _ := ⟨hvalid, hmessage⟩
  upToDate _ _ others e heval := by
    rw [hvalid, hmessage, (Engine.evaluate_of_idle hidle heval).1,
      (Engine.evaluate_of_idle hidle heval).2]
    exact ⟨rfl, rfl⟩
  wanted inquiry hmem hcurrent := absurd hcurrent (hunwanted inquiry hmem)

/-- The inquiries that were under way before belong to older generations. -/
theorem Counted.ne_next (hcounted : v.Counted field) {inquiry : Inquiry}
    (hmem : inquiry ∈ v.inquiries) : some (v.issued + 1) ≠ some inquiry.generation := by
  intro heq
  have hle := hcounted.inquiry_le hmem
  rw [← Option.some.inj heq] at hle
  exact absurd hle (Nat.not_succ_le_self _)

/-- After an evaluation the field is up to date. -/
theorem Fresh.evaluated (hcounted : v.Counted field)
    (hcancelled : state.status = .cancelled ↔ state.Idle)
    (heval : engine.evaluate state v.value others = .ok e) :
    (v.evaluated state (.ok e)).Fresh engine (state.evaluated v.value (v.issued + 1) (.ok e)) := by
  have hsetup := state.setup_evaluated v.value (v.issued + 1) (.ok e)
  -- a field that is not validated is valid whatever the evaluation says
  by_cases hidle : state.Idle
  · have hunwanted : ∀ inquiry ∈ (v.evaluated state (.ok e)).inquiries,
        some (v.issued + 1) ≠ some inquiry.generation := by
      intro inquiry hmem
      rw [View.evaluated, FieldState.launched_of_idle hidle] at hmem
      exact hcounted.ne_next (by simpa using hmem)
    refine .of_idle ((FieldState.Idle.congr hsetup).2 hidle) ?_ ?_ ?_ hunwanted
    all_goals rw [FieldState.evaluated_of_idle hidle]
    exact hcancelled.2 hidle
  · have hidle' := (FieldState.Idle.congr hsetup).not.2 hidle
    have hactive : (state.evaluated v.value (v.issued + 1) (.ok e)).status ≠ .cancelled :=
      FieldState.evaluated_ne_cancelled hidle (hcancelled.not.2 hidle)
    cases hawaiting : e.isAwaiting with
    | true =>
      have hplain : ¬ state.Plain := by
        intro hplain
        rw [Engine.isAwaiting_of_immediate hplain.immediate heval] at hawaiting
        cases hawaiting
      have hplain' := (FieldState.Plain.congr hsetup).not.2 hplain
      refine ⟨iff_of_false hactive hidle', fun h => absurd h hidle',
        fun _ h => absurd h hplain', fun _ _ _ => ⟨?_, hplain'⟩⟩
      rw [FieldState.congr_setup (f := (·.disabled)) (fun _ => rfl) hsetup]
      exact Bool.eq_false_iff.2 fun h => hidle (.inl h)
    | false =>
      have hevaluated : state.evaluated v.value (v.issued + 1) (.ok e) =
          { state with lastValue := v.value, generation := none }.record e.valid e.message :=
        FieldState.evaluated_of_final hidle hawaiting
      refine ⟨iff_of_false hactive hidle', fun h => absurd h hidle', ?_, ?_⟩
      · intro _ hplain others' e' heval'
        have hsame : e = e' := by
          rw [FieldState.evaluate_congr hsetup,
            Engine.evaluate_congr_of_plain ((FieldState.Plain.congr hsetup).1 hplain)] at heval'
          exact Except.ok.inj (heval.symm.trans heval')
        rw [hevaluated, hsame]
        exact ⟨FieldState.valid_record _ _ _, FieldState.message_record _ _ _⟩
      · intro inquiry hmem hcurrent
        rw [View.evaluated, FieldState.launched_of_final hawaiting] at hmem
        exact absurd hcurrent (hcounted.ne_next (by simpa using hmem))

/-- What becomes of a field before its evaluation leaves it showing whether it is
validated. -/
theorem cancelled_iff_of_prepares
    (hcancelled : ∀ state, v.state = some state → (state.status = .cancelled ↔ state.Idle))
    (hprepares : Prepares field v w) (hstate : w.state = some state) :
    state.status = .cancelled ↔ state.Idle := by
  cases hprepares with
  | again hold => exact hcancelled _ hstate
  | touched hold =>
    cases hstate
    have hbefore := hcancelled _ hold
    exact hbefore
  | ruled hold rules hcompile hrules =>
    cases hstate
    exact FieldState.ruled_cancelled_iff (hcancelled _ hold) rules hrules
  | enabled hold =>
    cases hstate
    exact FieldState.enabled_cancelled_iff (hcancelled _ hold)
  | changed hold hactive value =>
    cases hstate
    exact FieldState.changed_cancelled_iff (hcancelled _ hold)
  | renewed hrenewed =>
    obtain ⟨hold, touched, emptied, hcurrent, hissued⟩ := hrenewed
    cases hstate
    exact FieldState.renewed_cancelled_iff (hcancelled _ hold) touched
  | enrolled habsent registration config hname hfield hcompile =>
    cases hstate
    exact registration.state_cancelled_iff _ config

/-- A move that leaves the setup, the result and the generation of a field leaves
it up to date, unless it waits. -/
theorem Fresh.keep (hfresh : v.Fresh engine state) (hsetup : other.setup = state.setup)
    (hcancelled : other.status = .cancelled ↔ other.Idle)
    (hvalid : other.valid = state.valid) (hmessage : other.message = state.message)
    (hvalue : w.waiting = false → state.Plain → ∀ others e,
      engine.evaluate state w.value others = .ok e → state.valid = e.valid ∧ state.message = e.message)
    (hinquiries : ∀ inquiry ∈ w.inquiries, inquiry ∈ v.inquiries)
    (hcurrent : w.current = v.current) : w.Fresh engine other where
  cancelled_iff := hcancelled
  resting hidle := by
    rw [hvalid, hmessage]
    exact hfresh.resting ((FieldState.Idle.congr hsetup).1 hidle)
  upToDate hwaiting hplain others e heval := by
    rw [hvalid, hmessage]
    rw [FieldState.evaluate_congr hsetup] at heval
    exact hvalue hwaiting ((FieldState.Plain.congr hsetup).1 hplain) others e heval
  wanted inquiry hmem hgeneration := by
    rw [hcurrent] at hgeneration
    rw [FieldState.congr_setup (f := (·.disabled)) (fun _ => rfl) hsetup,
      FieldState.Plain.congr hsetup]
    exact hfresh.wanted inquiry (hinquiries inquiry hmem) hgeneration

/-- Every move leaves a field up to date unless it waits. -/
theorem Fresh.move (hfine : ¬ engine.Fails) (hcounted : v.Counted field)
    (hintact : v.Intact field) (hfresh : ∀ state, v.state = some state → v.Fresh engine state)
    (hmove : Move engine field v w) : ∀ state, w.state = some state → w.Fresh engine state := by
  intro state hstate
  cases hmove with
  | elsewhere hissued => exact { hfresh state hstate with }
  | @evaluated w before hprepares hbefore others =>
    have hpresent := (hintact.prepares hprepares).present _ hbefore
    obtain ⟨e, he⟩ := Engine.exists_evaluate hfine hpresent.compiled w.value others
    rw [he] at hstate ⊢
    cases hstate
    exact .evaluated (hcounted.prepares hprepares)
      (cancelled_iff_of_prepares (fun _ hold => (hfresh _ hold).cancelled_iff) hprepares hbefore) he
  | disabled hold =>
    cases hstate
    exact .of_idle (.inl rfl) rfl rfl rfl fun inquiry hmem => hcounted.ne_next hmem
  | unruled hold rules hcompile hrules =>
    cases hstate
    exact .of_idle (.inr hrules) rfl rfl rfl fun inquiry hmem => hcounted.ne_next hmem
  | removed hold => cases hstate
  | @delayed before hold hactive value =>
    cases hstate
    exact (hfresh _ hold).keep rfl
      (FieldState.changed_cancelled_iff (hfresh _ hold).cancelled_iff) rfl rfl nofun
      (fun _ => id) rfl
  | @unseen before hold hidle value =>
    cases hstate
    have hrest := (hfresh _ hold).cancelled_iff.1 hidle
    refine (hfresh _ hold).keep rfl
      (FieldState.changed_cancelled_iff (hfresh _ hold).cancelled_iff) rfl rfl ?_ (fun _ => id) rfl
    intro _ _ others e heval
    rw [((hfresh _ hold).resting hrest).1, ((hfresh _ hold).resting hrest).2,
      (Engine.evaluate_of_idle hrest heval).1, (Engine.evaluate_of_idle hrest heval).2]
    exact ⟨rfl, rfl⟩
  | @revealed before hold hinvalid hwaiting =>
    cases hstate
    have hidle := (hfresh _ hold).not_idle_of_invalid hinvalid
    have hsetup := before.setup_revealed
    refine (hfresh _ hold).keep hsetup (iff_of_false ?_ ?_) ?_ ?_
      (hfresh _ hold).upToDate (fun _ => id) rfl
    · exact FieldState.revealed_ne_cancelled ((hfresh _ hold).cancelled_iff.not.2 hidle)
    · exact (FieldState.Idle.congr hsetup).not.2 hidle
    · rw [FieldState.revealed_eq]
    · rw [FieldState.revealed_eq]
  | @concluded before inquiry hold hmem hcurrent verdict =>
    cases hstate
    -- a reply that is wanted belongs to a chain that asks, so nothing is to be
    -- shown about plain chains here
    obtain ⟨hdisabled, hplain⟩ := (hfresh _ hold).wanted inquiry hmem hcurrent
    have hidle := (hfresh _ hold).not_idle_of_wanted hmem hcurrent
    have hsetup := before.setup_concluded engine inquiry.evaluation verdict
    have hidle' := (FieldState.Idle.congr hsetup).not.2 hidle
    have hplain' := (FieldState.Plain.congr hsetup).not.2 hplain
    refine ⟨iff_of_false ?_ hidle', fun h => absurd h hidle', fun _ h => absurd h hplain',
      fun _ _ _ => ⟨?_, hplain'⟩⟩
    · exact FieldState.concluded_ne_cancelled ((hfresh _ hold).cancelled_iff.not.2 hidle) _ _ _
    · rw [FieldState.congr_setup (f := (·.disabled)) (fun _ => rfl) hsetup]
      exact hdisabled
  | dropped hmem hstale =>
    exact { hfresh state hstate with
      wanted := fun inquiry hmem => (hfresh state hstate).wanted inquiry (Multiset.mem_of_mem_erase hmem) }
  | abandoned hrenewed hfails => exact absurd hfails hfine

/-- Some moves leave a field up to date unless it waits. -/
theorem Fresh.moves (hfine : ¬ engine.Fails) (htracked : v.Tracked field)
    (hintact : v.Intact field) (hfresh : ∀ state, v.state = some state → v.Fresh engine state)
    (hmoves : Moves engine field v w) : ∀ state, w.state = some state → w.Fresh engine state := by
  suffices hall : w.Tracked field ∧ w.Intact field ∧
      ∀ state, w.state = some state → w.Fresh engine state from hall.2.2
  induction hmoves with
  | refl => exact ⟨htracked, hintact, hfresh⟩
  | tail _ hmove ih =>
    obtain ⟨htracked, hintact, hfresh⟩ := ih
    exact ⟨htracked.move hintact hmove, hintact.move hmove,
      Fresh.move hfine htracked.counted hintact hfresh hmove⟩

end View

/-! ## Reachable contexts -/

namespace Context

variable {c : Context} {field : String} {state : FieldState}

/-- With English messages all fields are up to date unless they wait. -/
theorem Reachable.fresh (hreach : c.Reachable)
    (henglish : c.translator = Message.english.translator)
    (hfind : c.fields.find? field = some state) : (c.view field).Fresh c.engine state := by
  have hfine : ¬ c.engine.Fails := Engine.not_fails_of_english henglish
  have hall := hreach.view_induction field
    (motive := fun v => v.Tracked field ∧
      ∀ state, v.state = some state → v.Fresh c.engine state)
    (fun v w hintact hv hmove =>
      ⟨hv.1.move hintact hmove, View.Fresh.move hfine hv.1.counted hintact hv.2 hmove⟩)
    ⟨.empty field, by simp [View.empty]⟩
  exact hall.2 state hfind

end Context

end FieldRules
