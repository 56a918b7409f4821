import FieldRules.Proofs.Freshness
import FieldRules.Proofs.SummaryAgreement

/-!
# What the status of a field tells

The status of a field is written together with its result, its generation and its
waiting evaluation, by many operations and under different conditions.  At all
times they fit together, whatever messages can be found and whatever the
callbacks do.

* `View.Coherent`: how status, result, generation and waiting evaluation of a
  field belong together.
* `Coherent.move`: every move keeps this.
* `statusTells_of_reachable`: what the status of a field tells in every reachable
  context.
-/

namespace FieldRules

/-! ## Evaluations of fields that are not validated -/

/-- There is nothing to fail in the evaluation of a field that is not validated. -/
theorem Engine.exists_evaluate_of_idle (engine : Engine) {state : FieldState} (hidle : state.Idle)
    (value : Option String) (others : String → Option String) :
    ∃ e, engine.evaluate state value others = .ok e := by
  unfold evaluate
  split
  · exact ⟨_, rfl⟩
  · rename_i hskips
    have hempty : state.validators = [] := by
      refine hidle.resolve_left fun hdisabled => hskips ?_
      rw [skips, hdisabled, Bool.true_or]
    rw [hempty]
    exact ⟨_, rfl⟩

/-! ## What is shown of fields that have not been touched -/

namespace FieldState

variable {state : FieldState} {status : Status} {value : Option String} {generation : Nat}

/-- A field that has not been touched shows nothing about its value. -/
def Hides (state : FieldState) : Prop :=
  state.touched = false → state.status = .untouched ∨ state.status = .cancelled

theorem showing_of_touched (htouched : state.touched = true) (status : Status) :
    state.showing status = { state with status } := by
  rw [showing, htouched, Bool.true_or, if_pos rfl]

theorem showing_of_untouched (huntouched : state.touched = false)
    (hresult : status.isResult = true) : state.showing status = state := by
  rw [showing, huntouched, hresult]
  rfl

theorem Hides.showing (hhides : state.Hides) (hresult : status.isResult = true) :
    (state.showing status).Hides := by
  cases htouched : state.touched with
  | true =>
    rw [showing_of_touched htouched]
    exact fun huntouched => absurd (htouched.symm.trans huntouched) nofun
  | false => rwa [showing_of_untouched htouched hresult]

/-- A field shows the result that it is told to show, or that it has not been
touched or is not validated. -/
theorem Hides.status_showing (hhides : state.Hides) (hresult : status.isResult = true) :
    (state.showing status).status = status ∨ (state.showing status).status = .untouched ∨
      (state.showing status).status = .cancelled := by
  cases htouched : state.touched with
  | true =>
    rw [showing_of_touched htouched]
    exact .inl rfl
  | false =>
    rw [showing_of_untouched htouched hresult]
    exact .inr (hhides htouched)

theorem isResult_of_valid (valid : Bool) :
    (if valid then Status.valid else Status.invalid).isResult = true := by
  cases valid <;> rfl

/-- A result that is final neither waits for an evaluation nor for a reply. -/
theorem Hides.status_record (hhides : state.Hides) (valid : Bool) (message : String) :
    (state.record valid message).status ≠ .pending ∧
      (state.record valid message).status ≠ .awaitingRemote := by
  have hbefore : ({ state with valid, message } : FieldState).Hides := hhides
  rcases hbefore.status_showing (isResult_of_valid valid) with h | h | h
  · rw [record, h]
    cases valid <;> exact ⟨nofun, nofun⟩
  · rw [record, h]
    exact ⟨nofun, nofun⟩
  · rw [record, h]
    exact ⟨nofun, nofun⟩

/-- The evaluation of a field that is validated gives a result that is final, also
where it fails, or asks callbacks. -/
theorem evaluated_of_active (hactive : ¬ state.Idle) (value : Option String) (generation : Nat)
    (result : Except ConfigError Evaluation) :
    (∃ valid message, state.launched value generation result = [] ∧
      state.evaluated value generation result =
        { state with lastValue := value, generation := none }.record valid message) ∨
    (∃ e, state.launched value generation result = [⟨state.name, generation, value, e⟩] ∧
      state.evaluated value generation result =
        { state with
          lastValue := value
          valid := false
          message := e.message
          generation := some generation }.showing .awaitingRemote) := by
  cases result with
  | error error => exact .inl ⟨false, "", rfl, rfl⟩
  | ok e =>
    cases hawaiting : e.isAwaiting with
    | true =>
      refine .inr ⟨e, ?_, evaluated_of_awaiting hactive hawaiting⟩
      rw [launched, if_neg]
      rw [hawaiting, Bool.not_true, Bool.or_false]
      exact state.idle_iff.not.1 hactive
    | false =>
      exact .inl ⟨e.valid, e.message, launched_of_final hawaiting,
        evaluated_of_final hactive hawaiting⟩

end FieldState

/-! ## What belongs together -/

namespace View

variable {engine : Engine} {field : String} {v w : View} {state : FieldState}

/-- A field shows that it is not validated, and then there is nothing to say about
it and nothing to come.  The generation that it stores is that of the inquiry whose
reply counts, and it is invalid until then. -/
structure Coherent (v : View) (state : FieldState) : Prop where
  cancelled_iff : state.status = .cancelled ↔ state.Idle
  resting : state.Idle → state.valid = true ∧ state.message = "" ∧ state.generation = none ∧
    v.waiting = false
  hides : state.Hides
  pending : state.status = .pending → v.waiting = true
  generation_iff : ∀ generation, state.generation = some generation ↔
    v.current = some generation ∧ ∃ inquiry ∈ v.inquiries, inquiry.generation = generation
  asking : state.generation.isSome = true → state.valid = false
  awaiting : state.status = .awaitingRemote → state.generation.isSome = true

/-- A field of which no reply is wanted stores no generation. -/
theorem generation_iff_of_unwanted (hgeneration : state.generation = none)
    (hunwanted : ∀ inquiry ∈ v.inquiries, v.current ≠ some inquiry.generation)
    (generation : Nat) :
    state.generation = some generation ↔
      v.current = some generation ∧ ∃ inquiry ∈ v.inquiries, inquiry.generation = generation := by
  rw [hgeneration]
  refine iff_of_false nofun ?_
  rintro ⟨hcurrent, inquiry, hmem, rfl⟩
  exact hunwanted inquiry hmem hcurrent

/-- A field whose validation stops. -/
theorem Coherent.of_idle (hidle : state.Idle) (hcancelled : state.status = .cancelled)
    (hvalid : state.valid = true) (hmessage : state.message = "")
    (hgeneration : state.generation = none) (hwaiting : v.waiting = false)
    (hunwanted : ∀ inquiry ∈ v.inquiries, v.current ≠ some inquiry.generation) :
    v.Coherent state where
  cancelled_iff := iff_of_true hcancelled hidle
  resting _ := ⟨hvalid, hmessage, hgeneration, hwaiting⟩
  hides _ := .inr hcancelled
  pending hpending := by rw [hcancelled] at hpending; cases hpending
  generation_iff := generation_iff_of_unwanted hgeneration hunwanted
  asking hsome := by rw [hgeneration] at hsome; cases hsome
  awaiting hawaiting := by rw [hcancelled] at hawaiting; cases hawaiting

/-- A field with a result that is final. -/
theorem Coherent.of_record (hactive : ¬ state.Idle) (hshown : state.status ≠ .cancelled)
    (hhides : state.Hides) (hgeneration : state.generation = none)
    (hunwanted : ∀ inquiry ∈ v.inquiries, v.current ≠ some inquiry.generation)
    (valid : Bool) (message : String) : v.Coherent (state.record valid message) := by
  have hidle : ¬ (state.record valid message).Idle :=
    (FieldState.Idle.congr (state.setup_record valid message)).not.2 hactive
  have hnone : (state.record valid message).generation = none := by
    rw [FieldState.record_eq, hgeneration]
  obtain ⟨hpending, hawaiting⟩ := hhides.status_record valid message
  have hbefore : ({ state with valid, message } : FieldState).Hides := hhides
  exact
    { cancelled_iff := iff_of_false (FieldState.record_ne_cancelled hshown valid message) hidle
      resting := fun h => absurd h hidle
      hides := hbefore.showing (FieldState.isResult_of_valid valid)
      pending := fun h => absurd h hpending
      generation_iff := generation_iff_of_unwanted hnone hunwanted
      asking := fun h => by rw [hnone] at h; cases h
      awaiting := fun h => absurd h hawaiting }

/-- A field that asks callbacks. -/
theorem Coherent.of_asking (hactive : ¬ state.Idle) (hshown : state.status ≠ .cancelled)
    (hhides : state.Hides) (hinvalid : state.valid = false) {generation : Nat}
    (hgeneration : state.generation = some generation) (hcurrent : v.current = some generation)
    (hasked : ∃ inquiry ∈ v.inquiries, inquiry.generation = generation) :
    v.Coherent (state.showing .awaitingRemote) := by
  have hidle : ¬ (state.showing .awaitingRemote).Idle :=
    (FieldState.Idle.congr (state.setup_showing .awaitingRemote)).not.2 hactive
  have hsome : (state.showing .awaitingRemote).generation = some generation := by
    rw [FieldState.showing_eq, hgeneration]
  refine
    { cancelled_iff := iff_of_false (FieldState.showing_ne_cancelled hshown nofun) hidle
      resting := fun h => absurd h hidle
      hides := hhides.showing rfl
      pending := fun hpending => ?_
      generation_iff := fun other => ?_
      asking := fun _ => by rw [FieldState.showing_eq, hinvalid]
      awaiting := fun _ => by rw [hsome]; rfl }
  · have hresult : Status.awaitingRemote.isResult = true := rfl
    rcases hhides.status_showing hresult with h | h | h <;>
      · rw [hpending] at h
        cases h
  · rw [hsome, hcurrent]
    refine ⟨fun hother => ⟨hother, ?_⟩, And.left⟩
    rw [← Option.some.inj hother]
    exact hasked

/-! ## Every move keeps this -/

/-- What is true of a field just before it is evaluated. -/
structure Prepared (v : View) (state : FieldState) : Prop where
  cancelled_iff : state.status = .cancelled ↔ state.Idle
  hides : state.Hides
  resting : state.Idle → v.waiting = false

theorem Coherent.prepares (hintact : v.Intact field)
    (hcoherent : ∀ state, v.state = some state → v.Coherent state)
    (hprepares : Prepares field v w) (hstate : w.state = some state) : w.Prepared state := by
  have hcancelled := cancelled_iff_of_prepares
    (fun _ hold => (hcoherent _ hold).cancelled_iff) hprepares hstate
  -- that the field is idle now means that it was idle before, or that nothing waits
  cases hprepares with
  | again hold => exact ⟨hcancelled, (hcoherent _ hstate).hides, fun _ => rfl⟩
  | touched hold =>
    cases hstate
    exact ⟨hcancelled, nofun, fun _ => rfl⟩
  | @ruled before hold rules compiled hcompile hrules =>
    cases hstate
    refine ⟨hcancelled, fun huntouched => ?_, fun hidle => ?_⟩
    · have hbefore : before.touched = false := huntouched
      unfold FieldState.ruled FieldState.resumedStatus FieldState.withRules
      dsimp only
      rw [hbefore]
      split
      · exact .inl rfl
      · exact (hcoherent _ hold).hides hbefore
    · have hdisabled : before.disabled = true := hidle.resolve_right hrules
      exact ((hcoherent _ hold).resting (.inl hdisabled)).2.2.2
  | @enabled before hold =>
    cases hstate
    refine ⟨hcancelled, fun huntouched => ?_, fun hidle => ?_⟩
    · have hbefore : before.touched = false := huntouched
      unfold FieldState.enabled FieldState.resumedStatus
      dsimp only
      rw [hbefore]
      split
      · exact (hcoherent _ hold).hides hbefore
      · exact .inl rfl
    · have hempty : before.validators = [] := hidle.resolve_left nofun
      exact ((hcoherent _ hold).resting (.inr hempty)).2.2.2
  | changed hold hactive value =>
    cases hstate
    exact ⟨hcancelled, nofun, fun _ => rfl⟩
  | renewed hrenewed =>
    obtain ⟨hold, touched, emptied, hcurrent, hissued⟩ := hrenewed
    cases hstate
    refine ⟨hcancelled, fun _ => ?_, fun _ => rfl⟩
    unfold FieldState.renewed FieldState.markValid
    dsimp only
    split
    · exact .inr rfl
    · exact .inl rfl
  | enrolled habsent registration config hname hfield hcompile =>
    cases hstate
    refine ⟨hcancelled, fun _ => ?_, fun _ => (hintact.absent habsent).waiting⟩
    unfold Registration.state FieldState.fresh
    dsimp only
    split
    · exact .inr rfl
    · exact .inl rfl

/-- An evaluation leaves the field coherent, whatever comes of it. -/
theorem Prepared.evaluated (hprepared : v.Prepared state) (hcounted : v.Counted field)
    (others : String → Option String) :
    (v.evaluated state (engine.evaluate state v.value others)).Coherent
      (state.evaluated v.value (v.issued + 1) (engine.evaluate state v.value others)) := by
  by_cases hidle : state.Idle
  · obtain ⟨e, he⟩ := engine.exists_evaluate_of_idle hidle v.value others
    have hsetup := state.setup_evaluated v.value (v.issued + 1) (.ok e)
    rw [he]
    refine .of_idle ((FieldState.Idle.congr hsetup).2 hidle) ?_ ?_ ?_ ?_
      (hprepared.resting hidle) ?_
    · rw [FieldState.evaluated_of_idle hidle]
      exact hprepared.cancelled_iff.2 hidle
    · rw [FieldState.evaluated_of_idle hidle]
    · rw [FieldState.evaluated_of_idle hidle]
    · rw [FieldState.evaluated_of_idle hidle]
    · intro inquiry hmem
      rw [View.evaluated, FieldState.launched_of_idle hidle] at hmem
      exact hcounted.ne_next (by simpa using hmem)
  · have hshown : state.status ≠ .cancelled := hprepared.cancelled_iff.not.2 hidle
    rcases FieldState.evaluated_of_active hidle v.value (v.issued + 1)
      (engine.evaluate state v.value others) with
      ⟨valid, message, hlaunched, hevaluated⟩ | ⟨e, hlaunched, hevaluated⟩
    · rw [hevaluated]
      refine .of_record ?_ ?_ ?_ rfl ?_ valid message
      · exact hidle
      · exact hshown
      · exact hprepared.hides
      · intro inquiry hmem
        rw [View.evaluated, hlaunched] at hmem
        exact hcounted.ne_next (by simpa using hmem)
    · rw [hevaluated]
      refine .of_asking ?_ ?_ ?_ rfl rfl rfl ?_
      · exact hidle
      · exact hshown
      · exact hprepared.hides
      · refine ⟨⟨state.name, v.issued + 1, v.value, e⟩, ?_, rfl⟩
        rw [View.evaluated, hlaunched]
        exact Multiset.mem_add.2 (.inr (Multiset.mem_singleton_self _))

/-- A change of the value leaves a waiting evaluation, unless the field is not
validated. -/
theorem Coherent.changed (hcoherent : v.Coherent state) (value : Option String) {waiting : Bool}
    (hwaiting : state.status ≠ .cancelled → waiting = true)
    (hresting : state.status = .cancelled → waiting = v.waiting) :
    (v.changed field state value waiting).Coherent state.changed where
  cancelled_iff := FieldState.changed_cancelled_iff hcoherent.cancelled_iff
  resting hidle := by
    have hbefore : state.Idle := hidle
    obtain ⟨hvalid, hmessage, hgeneration, hnot⟩ := hcoherent.resting hbefore
    exact ⟨hvalid, hmessage, hgeneration,
      (hresting (hcoherent.cancelled_iff.2 hbefore)).trans hnot⟩
  hides := nofun
  pending hpending := by
    refine hwaiting fun hcancelled => ?_
    rw [FieldState.changed, if_pos hcancelled] at hpending
    cases hpending
  generation_iff := hcoherent.generation_iff
  asking := hcoherent.asking
  awaiting hawaiting := by
    unfold FieldState.changed at hawaiting
    dsimp only at hawaiting
    split at hawaiting <;> cases hawaiting

/-- A field that is invalid may show so. -/
theorem Coherent.revealed (hcoherent : v.Coherent state) (hinvalid : state.valid = false) :
    ({ v with state := some state.revealed } : View).Coherent state.revealed := by
  have hactive : ¬ state.Idle := by
    intro hidle
    rw [(hcoherent.resting hidle).1] at hinvalid
    cases hinvalid
  have hidle : ¬ state.revealed.Idle :=
    (FieldState.Idle.congr state.setup_revealed).not.2 hactive
  have hrevealed : state.revealed =
      { state with
        touched := true
        status := if state.generation.isSome then .awaitingRemote else .invalid } := by
    rw [FieldState.revealed, hinvalid, if_neg Bool.false_ne_true,
      FieldState.showing_of_touched rfl]
  refine
    { cancelled_iff := iff_of_false ?_ hidle
      resting := fun h => absurd h hidle
      hides := ?_, pending := ?_, generation_iff := ?_, asking := ?_, awaiting := ?_ }
  · exact FieldState.revealed_ne_cancelled (hcoherent.cancelled_iff.not.2 hactive)
  · rw [hrevealed]
    exact nofun
  · rw [hrevealed]
    cases state.generation <;> exact nofun
  · rw [hrevealed]
    exact hcoherent.generation_iff
  · rw [hrevealed]
    exact hcoherent.asking
  · rw [hrevealed]
    cases state.generation with
    | none => exact nofun
    | some generation => exact fun _ => rfl

/-- Every move leaves a field coherent. -/
theorem Coherent.move (hcounted : v.Counted field) (hintact : v.Intact field)
    (hcoherent : ∀ state, v.state = some state → v.Coherent state)
    (hmove : Move engine field v w) : ∀ state, w.state = some state → w.Coherent state := by
  intro state hstate
  cases hmove with
  | elsewhere hissued => exact { hcoherent state hstate with }
  | evaluated hprepares hbefore others =>
    cases hstate
    exact (Coherent.prepares hintact hcoherent hprepares hbefore).evaluated
      (hcounted.prepares hprepares) others
  | disabled hold =>
    cases hstate
    exact .of_idle (.inl rfl) rfl rfl rfl rfl rfl fun inquiry hmem => hcounted.ne_next hmem
  | unruled hold rules hcompile hrules =>
    cases hstate
    exact .of_idle (.inr hrules) rfl rfl rfl rfl rfl fun inquiry hmem => hcounted.ne_next hmem
  | removed hold => cases hstate
  | delayed hold hactive value =>
    cases hstate
    exact (hcoherent _ hold).changed value (fun _ => rfl) fun hidle => absurd hidle hactive
  | unseen hold hidle value =>
    cases hstate
    exact (hcoherent _ hold).changed value (fun hactive => absurd hidle hactive) fun _ => rfl
  | revealed hold hinvalid hwaiting =>
    cases hstate
    exact (hcoherent _ hold).revealed hinvalid
  | @concluded before inquiry hold hmem hcurrent verdict =>
    cases hstate
    have hbefore := hcoherent _ hold
    -- the reply is wanted, so the field stores its generation and is validated
    have hgeneration := (hbefore.generation_iff _).2 ⟨hcurrent, inquiry, hmem, rfl⟩
    have hactive : ¬ before.Idle := by
      intro hidle
      rw [(hbefore.resting hidle).2.2.1] at hgeneration
      cases hgeneration
    have hunwanted : ∀ other ∈ (v.concluded engine before inquiry verdict).inquiries,
        v.current ≠ some other.generation := by
      intro other hother hwanted
      refine (hcounted.of_mem_erase hmem hother).2 ?_
      exact Option.some.inj (hwanted.symm.trans hcurrent)
    have hrecord : ∀ valid message, (v.concluded engine before inquiry verdict).Coherent
        ({ before with generation := none }.record valid message) := by
      refine .of_record ?_ ?_ ?_ rfl hunwanted
      · exact hactive
      · exact hbefore.cancelled_iff.not.2 hactive
      · exact hbefore.hides
    cases verdict <;> exact hrecord _ _
  | @dropped inquiry hmem hstale =>
    have hbefore := hcoherent state hstate
    refine { hbefore with generation_iff := fun generation => ?_ }
    rw [hbefore.generation_iff]
    refine and_congr_right fun hcurrent => ?_
    constructor
    · rintro ⟨other, hother, rfl⟩
      refine ⟨other, (Multiset.mem_erase_of_ne ?_).2 hother, rfl⟩
      rintro rfl
      exact hstale hcurrent
    · rintro ⟨other, hother, hgeneration⟩
      exact ⟨other, Multiset.mem_of_mem_erase hother, hgeneration⟩
  | abandoned hrenewed hfails =>
    have hprepared := Coherent.prepares hintact hcoherent (.renewed hrenewed) hstate
    obtain ⟨hold, touched, emptied, hcurrent, hissued⟩ := hrenewed
    cases hstate
    refine
      { cancelled_iff := hprepared.cancelled_iff
        resting := fun _ => ⟨rfl, rfl, rfl, rfl⟩
        hides := hprepared.hides
        pending := fun hpending => ?_
        generation_iff := generation_iff_of_unwanted rfl fun inquiry hmem hwanted => ?_
        asking := nofun
        awaiting := fun hawaiting => ?_ }
    · unfold FieldState.renewed FieldState.markValid at hpending
      dsimp only at hpending
      split at hpending <;> cases hpending
    · have hle := hcounted.inquiry_le hmem
      rw [← Option.some.inj hwanted] at hle
      exact absurd hcurrent (Nat.not_lt.2 hle)
    · unfold FieldState.renewed FieldState.markValid at hawaiting
      dsimp only at hawaiting
      split at hawaiting <;> cases hawaiting

end View

/-! ## Reachable contexts -/

namespace Context

variable {c : Context} {field : String} {state : FieldState}

/-- In every reachable context all fields are coherent. -/
theorem Reachable.coherent (hreach : c.Reachable) (hfind : c.fields.find? field = some state) :
    (c.view field).Coherent state := by
  have hall := hreach.view_induction field
    (motive := fun v => v.Tracked field ∧ ∀ state, v.state = some state → v.Coherent state)
    (fun v w hintact hv hmove =>
      ⟨hv.1.move hintact hmove, View.Coherent.move hv.1.counted hintact hv.2 hmove⟩)
    ⟨.empty field, by simp [View.empty]⟩
  exact hall.2 state hfind

/-- What the status of a field tells: that it is not validated, and then nothing is
wrong with it and nothing is to come; that it has not been touched; that its
evaluation waits. -/
structure StatusTells (c : Context) (field : String) (state : FieldState) : Prop where
  cancelled_iff : state.status = .cancelled ↔ state.disabled = true ∨ state.validators = []
  valid : state.status = .cancelled → state.valid = true ∧ state.message = ""
  unlisted : state.status = .cancelled → ∀ entry ∈ c.summary.entries, entry.field ≠ field
  idle : state.status = .cancelled → c.clock.isPending field = false ∧ state.generation = none
  untouched : state.touched = false → state.status = .untouched ∨ state.status = .cancelled
  pending : state.status = .pending → state.touched = true ∧ c.clock.isPending field = true

/-- In every reachable context the status of a field tells the truth. -/
theorem statusTells_of_reachable (hreach : c.Reachable)
    (hfind : c.fields.find? field = some state) : c.StatusTells field state := by
  have hcoherent := hreach.coherent hfind
  have hresting : state.status = .cancelled → _ :=
    fun hcancelled => hcoherent.resting (hcoherent.cancelled_iff.1 hcancelled)
  refine
    { cancelled_iff := hcoherent.cancelled_iff
      valid := fun hcancelled => ⟨(hresting hcancelled).1, (hresting hcancelled).2.1⟩
      unlisted := fun hcancelled entry hmem hfield => ?_
      idle := fun hcancelled => ⟨(hresting hcancelled).2.2.2, (hresting hcancelled).2.2.1⟩
      untouched := hcoherent.hides
      pending := fun hpending => ⟨?_, hcoherent.pending hpending⟩ }
  · obtain ⟨other, hother, hinvalid⟩ :=
      ((SummaryAgrees.of_sound hreach.sound).lists_iff field).1 ⟨entry, hmem, hfield⟩
    rw [hfind] at hother
    rw [← Option.some.inj hother, (hresting hcancelled).1] at hinvalid
    cases hinvalid
  · by_contra huntouched
    rcases hcoherent.hides (Bool.eq_false_iff.2 huntouched) with h | h <;>
      · rw [hpending] at h
        cases h

/-- A form in which one field waits for its evaluation, one is evaluated along with
it although it is disabled, and one has lost its rules while it was disabled. -/
def threeStatuses : Context :=
  (start Message.english.translator { debounce := 100 } []).run
    [.register { name := "word", rules := "required" },
      .register { name := "copy", rules := "required|match:word" },
      .register { name := "note", rules := "required" },
      .setDisabled "copy" true, .setDisabled "note" true, .setRules "note" "",
      .setDisabled "note" false, .setValue "note" "new", .setValue "word" "owl"]

theorem statusTells_of_threeStatuses :
    ∃ word copy note, threeStatuses.fields.find? "word" = some word ∧ word.status = .pending ∧
      threeStatuses.fields.find? "copy" = some copy ∧ copy.status = .cancelled ∧
      threeStatuses.fields.find? "note" = some note ∧ note.status = .cancelled ∧
      threeStatuses.StatusTells "word" word ∧ threeStatuses.StatusTells "copy" copy ∧
      threeStatuses.StatusTells "note" note := by
  have hreach : threeStatuses.Reachable := (Reachable.start _ _ _).run _
  obtain ⟨word, hword, hpending⟩ := Option.map_eq_some_iff.1
    (show (threeStatuses.fields.find? "word").map (·.status) = some .pending by decide +kernel)
  obtain ⟨copy, hcopy, hdisabled⟩ := Option.map_eq_some_iff.1
    (show (threeStatuses.fields.find? "copy").map (·.status) = some .cancelled by decide +kernel)
  obtain ⟨note, hnote, hempty⟩ := Option.map_eq_some_iff.1
    (show (threeStatuses.fields.find? "note").map (·.status) = some .cancelled by decide +kernel)
  exact ⟨word, copy, note, hword, hpending, hcopy, hdisabled, hnote, hempty,
    statusTells_of_reachable hreach hword, statusTells_of_reachable hreach hcopy,
    statusTells_of_reachable hreach hnote⟩

end Context

end FieldRules
