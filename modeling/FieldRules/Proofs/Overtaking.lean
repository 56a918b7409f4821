import FieldRules.Proofs.Freshness

/-!
# Replies that overtake an evaluation

A change of a value waits before the field is evaluated, and does not outdate the
inquiry that is under way.  If the reply comes first, the field shows a result
about the value before the change.  This is the only way in which a result that
is shown can be about another value than the current one.

* `Overtaken`: the journal of a field whose last evaluation has been overtaken.
* `View.Shown`: a result that is shown is about the current value, unless its
  evaluation has been overtaken.
* `Shown.move`: every move keeps this.
* `lastValue_eq_iff_not_overtaken`: which results are about another value.
* `lastValue_eq_or_waits`: no change of a value is lost.
-/

namespace FieldRules

/-! ## Overtaken evaluations -/

/-- Whether the mark is a change of a value. -/
def Mark.isChange : Mark → Bool
  | .changed _ _ => true
  | _ => false

/-- The last that has happened to the field is a reply about a value, after
changes that have left another one. -/
def Overtaken (field : String) (marks : List Mark) : Prop :=
  ∃ before changes generation asked value,
    marks = before ++ .evaluated field generation asked ::
      (changes ++ [.changed field value, .concluded field generation]) ∧
    (∀ mark ∈ changes, mark.isChange = true) ∧ asked ≠ value

namespace Mark

variable {mark other : Mark} {before after changes changes' marks : List Mark} {field : String}
  {generation : Nat}

theorem isChange_append (hchanges : ∀ mark ∈ changes, mark.isChange = true)
    (value : Option String) : ∀ mark ∈ changes ++ [.changed field value], mark.isChange = true := by
  intro mark hmem
  rcases List.mem_append.1 hmem with hmem | hmem
  · exact hchanges mark hmem
  · rw [List.mem_singleton.1 hmem]
    rfl

/-- A list has only one place from which on there are nothing but changes. -/
theorem eq_of_append_changes (heq : before ++ mark :: changes = after ++ other :: changes')
    (hmark : mark.isChange = false) (hother : other.isChange = false)
    (hchanges : ∀ mark ∈ changes, mark.isChange = true)
    (hchanges' : ∀ mark ∈ changes', mark.isChange = true) :
    mark = other ∧ changes = changes' := by
  rcases List.append_eq_append_iff.1 heq with ⟨rest, -, hrest⟩ | ⟨rest, -, hrest⟩
  · cases rest with
    | nil => exact List.cons.inj hrest
    | cons head rest =>
      have hmem : other ∈ changes := by simp [(List.cons.inj hrest).2]
      rw [hchanges other hmem] at hother
      cases hother
  · cases rest with
    | nil => exact (List.cons.inj hrest).imp Eq.symm Eq.symm
    | cons head rest =>
      have hmem : mark ∈ changes' := by simp [(List.cons.inj hrest).2]
      rw [hchanges' mark hmem] at hmark
      cases hmark

end Mark

/-- Only a reply overtakes, and only an evaluation after which the value has
changed. -/
theorem overtaken_append_iff {field : String} {marks : List Mark} {mark : Mark} :
    Overtaken field (marks ++ [mark]) ↔
      ∃ before changes generation asked value,
        marks = before ++ .evaluated field generation asked :: (changes ++ [.changed field value]) ∧
        mark = .concluded field generation ∧
        (∀ mark ∈ changes, mark.isChange = true) ∧ asked ≠ value := by
  refine exists₅_congr fun before changes generation asked value => ?_
  have happend : before ++ Mark.evaluated field generation asked ::
      (changes ++ [.changed field value, .concluded field generation]) =
      before ++ .evaluated field generation asked :: (changes ++ [.changed field value]) ++
        [.concluded field generation] := by simp
  rw [happend]
  constructor
  · rintro ⟨heq, hrest⟩
    obtain ⟨hmarks, hmark⟩ := List.append_inj' heq rfl
    exact ⟨hmarks, List.singleton_inj.1 hmark, hrest⟩
  · rintro ⟨rfl, rfl, hrest⟩
    exact ⟨rfl, hrest⟩

theorem not_overtaken_append {field : String} {marks : List Mark} {mark : Mark}
    (hmark : ∀ generation, mark ≠ .concluded field generation) :
    ¬ Overtaken field (marks ++ [mark]) := by
  rw [overtaken_append_iff]
  rintro ⟨before, changes, generation, asked, value, -, hconcluded, -⟩
  exact hmark generation hconcluded

/-! ## Results that are shown -/

namespace FieldState

variable {state : FieldState}

theorem lastValue_evaluated (state : FieldState) (value : Option String) (generation : Nat)
    (result : Except ConfigError Evaluation) :
    (state.evaluated value generation result).lastValue = value := by
  cases result with
  | error e => rw [evaluated, record_eq]
  | ok e =>
    unfold evaluated
    dsimp only
    split
    · rfl
    · split
      · rw [showing_eq]
      · rw [record_eq]

theorem lastValue_concluded (state : FieldState) (engine : Engine) (e : Evaluation)
    (verdict : Except ConfigError Verdict) :
    (state.concluded engine e verdict).lastValue = state.lastValue := by
  cases verdict <;> rw [concluded, record_eq]

/-- The result of an inquiry is shown once the field has been touched. -/
theorem isResult_concluded (htouched : state.touched = true) (engine : Engine) (e : Evaluation)
    (verdict : Except ConfigError Verdict) :
    (state.concluded engine e verdict).status.isResult = true := by
  have hrecord : ∀ valid message,
      ({ state with generation := none }.record valid message).status.isResult = true := by
    intro valid message
    unfold record showing
    dsimp only
    rw [htouched, Bool.true_or, if_pos rfl]
    cases valid <;> rfl
  cases verdict <;> exact hrecord _ _

theorem touched_revealed (htouched : state.touched = true) : state.revealed.touched = true := by
  unfold revealed
  split
  · exact htouched
  · rw [showing_eq]

end FieldState

namespace View

variable {engine : Engine} {field : String} {v w : View} {state : FieldState}
  {inquiry : Inquiry} {value : Option String} {marks : List Mark}

/-- What has become of a field since the evaluation that has made an inquiry:
nothing but changes, which have left it with a value. -/
inductive Trail (field : String) (state : FieldState) (inquiry : Inquiry) (value : Option String)
    (marks : List Mark) : Prop where
  | unchanged (before : List Mark) (hmarks : marks = before ++ [inquiry.mark])
      (hvalue : value = inquiry.value)
  | changed (before changes : List Mark)
      (hmarks : marks = before ++ inquiry.mark :: (changes ++ [.changed field value]))
      (hchanges : ∀ mark ∈ changes, mark.isChange = true) (htouched : state.touched = true)

/-- The value of the last evaluation is the current one, unless another
evaluation waits.  The results that are shown are about it, unless a reply has
overtaken the evaluation that waits. -/
structure Shown (field : String) (v : View) (state : FieldState) : Prop where
  settled : v.waiting = false → state.status ≠ .cancelled → state.lastValue = v.value
  asked : ∀ inquiry ∈ v.inquiries, v.current = some inquiry.generation →
    state.lastValue = inquiry.value ∧ Trail field state inquiry v.value v.marks
  overtaken_iff : Overtaken field v.marks ↔
    state.status.isResult = true ∧ state.lastValue ≠ v.value

/-- One more change keeps the trail of an inquiry. -/
theorem Trail.change (htrail : Trail field state inquiry value marks) (other : Option String) :
    Trail field state.changed inquiry other (marks ++ [.changed field other]) := by
  cases htrail with
  | unchanged before hmarks hvalue =>
    exact .changed before [] (by simp [hmarks]) (by simp) rfl
  | changed before changes hmarks hchanges htouched =>
    exact .changed before (changes ++ [.changed field value]) (by simp [hmarks])
      (Mark.isChange_append hchanges value) rfl

theorem Trail.revealed (htrail : Trail field state inquiry value marks) :
    Trail field state.revealed inquiry value marks := by
  cases htrail with
  | unchanged before hmarks hvalue => exact .unchanged before hmarks hvalue
  | changed before changes hmarks hchanges htouched =>
    exact .changed before changes hmarks hchanges (FieldState.touched_revealed htouched)

theorem Trail.touched (htrail : Trail field state inquiry value marks)
    (hne : inquiry.value ≠ value) : state.touched = true := by
  cases htrail with
  | unchanged before hmarks hvalue => exact absurd hvalue.symm hne
  | changed before changes hmarks hchanges htouched => exact htouched

/-- An inquiry that is still wanted has been overtaken if and only if the value
has changed since. -/
theorem Trail.overtaken_iff (htrail : Trail field state inquiry value marks)
    (hfield : inquiry.field = field) :
    Overtaken field (marks ++ [.concluded field inquiry.generation]) ↔ inquiry.value ≠ value := by
  have hmark : inquiry.mark = .evaluated field inquiry.generation inquiry.value := by
    rw [Inquiry.mark, hfield]
  rw [overtaken_append_iff]
  cases htrail with
  | unchanged before hmarks hvalue =>
    refine iff_of_false ?_ fun hne => hne hvalue.symm
    rintro ⟨before', changes, generation, asked, last, heq, -⟩
    rw [hmarks, ← List.cons_append, ← List.append_assoc] at heq
    have hlast := List.singleton_inj.1 (List.append_inj' heq rfl).2
    cases hlast
  | changed before changes hmarks hchanges htouched =>
    constructor
    · rintro ⟨before', changes', generation, asked, last, heq, -, hchanges', hne⟩
      rw [hmarks, hmark] at heq
      obtain ⟨hevaluated, hlast⟩ := Mark.eq_of_append_changes heq rfl rfl
        (Mark.isChange_append hchanges value) (Mark.isChange_append hchanges' last)
      have hchanged := List.singleton_inj.1 (List.append_inj' hlast rfl).2
      cases hevaluated
      cases hchanged
      exact hne
    · intro hne
      refine ⟨before, changes, inquiry.generation, inquiry.value, value, ?_, rfl, hchanges, hne⟩
      rw [← hmark]
      exact hmarks

/-- A field of which nothing is shown has not been overtaken. -/
theorem Shown.of_hidden (hsettled : w.waiting = false → state.status ≠ .cancelled →
      state.lastValue = w.value)
    (hasked : ∀ inquiry ∈ w.inquiries, w.current = some inquiry.generation →
      state.lastValue = inquiry.value ∧ Trail field state inquiry w.value w.marks)
    {marks : List Mark} {mark : Mark} (hmarks : w.marks = marks ++ [mark])
    (hmark : ∀ generation, mark ≠ .concluded field generation)
    (hhidden : state.status.isResult = false) : w.Shown field state where
  settled := hsettled
  asked := hasked
  overtaken_iff := by
    rw [hmarks, hhidden]
    exact iff_of_false (not_overtaken_append hmark) fun h => Bool.false_ne_true h.1

/-- After an evaluation what is shown is about the current value. -/
theorem Shown.evaluated (hcounted : v.Counted field) (state : FieldState)
    (result : Except ConfigError Evaluation) :
    (v.evaluated state result).Shown field (state.evaluated v.value (v.issued + 1) result) where
  settled _ _ := state.lastValue_evaluated _ _ _
  asked inquiry hmem hcurrent := by
    rcases Multiset.mem_add.1 hmem with hmem | hmem
    · exact absurd hcurrent (hcounted.ne_next hmem)
    · obtain ⟨hfield, hgeneration, hvalue⟩ := launched_eq (Multiset.mem_coe.1 hmem)
      refine ⟨(state.lastValue_evaluated _ _ _).trans hvalue.symm, .unchanged v.marks ?_ hvalue.symm⟩
      rw [Inquiry.mark, hfield, hgeneration, hvalue]
      rfl
  overtaken_iff := by
    refine iff_of_false (not_overtaken_append ?_) fun h => h.2 (state.lastValue_evaluated _ _ _)
    rintro generation ⟨⟩

/-- A field whose validation stops shows nothing. -/
theorem Shown.suspended (hcounted : v.Counted field) (state : FieldState) {mark : Mark}
    (hmark : ∀ generation, mark ≠ .concluded field generation) :
    (v.suspended state mark).Shown field state.suspended :=
  .of_hidden (fun _ hactive => absurd rfl hactive)
    (fun _ hmem hcurrent => absurd hcurrent (hcounted.ne_next hmem)) rfl hmark rfl

theorem Shown.changed (hshown : v.Shown field state) (value : Option String) {waiting : Bool}
    (hwaiting : waiting = false → state.status = .cancelled) :
    (v.changed field state value waiting).Shown field state.changed := by
  refine .of_hidden (fun hnot hactive => ?_) (fun inquiry hmem hcurrent => ?_)
    rfl (fun _ => nofun) ?_
  · refine absurd ?_ hactive
    rw [FieldState.changed, if_pos (hwaiting hnot)]
  · have hasked := hshown.asked inquiry hmem hcurrent
    exact ⟨hasked.1, hasked.2.change value⟩
  · unfold FieldState.changed
    dsimp only
    split <;> rfl

theorem Shown.concluded (hcounted : v.Counted field) (hshown : v.Shown field state)
    (hactive : state.status ≠ .cancelled) (hmem : inquiry ∈ v.inquiries)
    (hcurrent : v.current = some inquiry.generation) (verdict : Except ConfigError Verdict) :
    (v.concluded engine state inquiry verdict).Shown field
      (state.concluded engine inquiry.evaluation verdict) := by
  have hfield := hcounted.inquiry_field inquiry hmem
  -- the inquiry is wanted, so nothing but changes has happened since
  obtain ⟨hlast, htrail⟩ := hshown.asked inquiry hmem hcurrent
  have hvalue := state.lastValue_concluded engine inquiry.evaluation verdict
  refine ⟨fun hnot _ => ?_, fun other hother hgeneration => ?_, ?_⟩
  · rw [hvalue]
    exact hshown.settled hnot hactive
  · refine absurd ?_ (hcounted.of_mem_erase hmem hother).2
    exact Option.some.inj (hgeneration.symm.trans hcurrent)
  · rw [hvalue, hlast]
    simp only [View.concluded]
    rw [hfield, htrail.overtaken_iff hfield]
    refine ⟨fun hne => ⟨?_, hne⟩, And.right⟩
    exact FieldState.isResult_concluded (htrail.touched hne) _ _ _

theorem Shown.revealed (hshown : v.Shown field state) (hactive : state.status ≠ .cancelled)
    (hwaiting : v.waiting = false) :
    ({ v with state := some state.revealed } : View).Shown field state.revealed := by
  have hvalue : state.revealed.lastValue = state.lastValue := by rw [FieldState.revealed_eq]
  have hsettled := hshown.settled hwaiting hactive
  refine ⟨fun _ _ => hvalue.trans hsettled, fun inquiry hmem hcurrent => ?_, ?_⟩
  · have hasked := hshown.asked inquiry hmem hcurrent
    exact ⟨hvalue.trans hasked.1, hasked.2.revealed⟩
  · rw [hvalue]
    refine hshown.overtaken_iff.trans ?_
    exact iff_of_false (fun h => h.2 hsettled) fun h => h.2 hsettled

/-- Every move leaves the results that are shown about the current value, unless
a reply overtakes the evaluation that waits. -/
theorem Shown.move (htracked : v.Tracked field)
    (hfresh : ∀ state, v.state = some state → v.Fresh engine state) (hfine : ¬ engine.Fails)
    (hshown : ∀ state, v.state = some state → v.Shown field state)
    (hmove : Move engine field v w) : ∀ state, w.state = some state → w.Shown field state := by
  have hcounted := htracked.counted
  intro state hstate
  cases hmove with
  | elsewhere hissued => exact { hshown state hstate with }
  | evaluated hprepares hbefore others =>
    cases hstate
    exact .evaluated (hcounted.prepares hprepares) _ _
  | disabled hold =>
    cases hstate
    exact .suspended hcounted _ nofun
  | unruled hold rules hcompile hrules =>
    cases hstate
    exact .suspended hcounted _ nofun
  | removed hold => cases hstate
  | delayed hold hactive value =>
    cases hstate
    exact (hshown _ hold).changed value nofun
  | unseen hold hidle value =>
    cases hstate
    exact (hshown _ hold).changed value fun _ => hidle
  | @revealed before hold hinvalid hwaiting =>
    -- only fields that do not wait are revealed: no stale result comes to light
    cases hstate
    have hidle := (hfresh _ hold).not_idle_of_invalid hinvalid
    exact (hshown _ hold).revealed ((hfresh _ hold).cancelled_iff.not.2 hidle) hwaiting
  | @concluded before inquiry hold hmem hcurrent verdict =>
    cases hstate
    have hidle := (hfresh _ hold).not_idle_of_wanted hmem hcurrent
    exact (hshown _ hold).concluded hcounted ((hfresh _ hold).cancelled_iff.not.2 hidle) hmem
      hcurrent verdict
  | dropped hmem hstale =>
    have hbefore := hshown state hstate
    exact { hbefore with
      asked := fun inquiry hmem => hbefore.asked inquiry (Multiset.mem_of_mem_erase hmem) }
  | abandoned hrenewed hfails => exact absurd hfails hfine

end View

/-! ## Reachable contexts -/

namespace Context

variable {c : Context} {field : String} {state : FieldState}

theorem Reachable.shown (hreach : c.Reachable)
    (henglish : c.translator = Message.english.translator)
    (hfind : c.fields.find? field = some state) : (c.view field).Shown field state := by
  have hfine : ¬ c.engine.Fails := Engine.not_fails_of_english henglish
  have hall := hreach.view_induction field
    (motive := fun v => v.Tracked field ∧ (∀ state, v.state = some state → v.Fresh c.engine state) ∧
      ∀ state, v.state = some state → v.Shown field state)
    (fun v w hintact hv hmove =>
      ⟨hv.1.move hintact hmove, View.Fresh.move hfine hv.1.counted hintact hv.2.1 hmove,
        View.Shown.move hv.1 hv.2.1 hfine hv.2.2 hmove⟩)
    ⟨.empty field, by simp [View.empty], by simp [View.empty]⟩
  exact hall.2.2 state hfind

/-- A result that is shown is about the current value, unless a reply about an
older value has overtaken the evaluation of the current one, which still waits
then. -/
theorem lastValue_eq_iff_not_overtaken (hreach : c.Reachable)
    (henglish : c.translator = Message.english.translator)
    (hfind : c.fields.find? field = some state) (hresult : state.status.isResult = true) :
    (state.lastValue = c.values.find? field ↔ ¬ Overtaken field (c.marks field)) ∧
      (Overtaken field (c.marks field) → c.clock.isPending field = true) := by
  have hshown := hreach.shown henglish hfind
  have hovertaken : Overtaken field (c.marks field) ↔ state.lastValue ≠ c.values.find? field :=
    hshown.overtaken_iff.trans (and_iff_right hresult)
  refine ⟨by rw [hovertaken, not_ne_iff], fun h => ?_⟩
  by_contra hwaiting
  refine hovertaken.1 h (hshown.settled (Bool.eq_false_iff.2 hwaiting) fun hcancelled => ?_)
  rw [hcancelled] at hresult
  cases hresult

/-- No change of a value is lost: the last evaluation of a field that is validated
was about its current value, or another one waits. -/
theorem lastValue_eq_or_waits (hreach : c.Reachable)
    (henglish : c.translator = Message.english.translator)
    (hfind : c.fields.find? field = some state) (hactive : state.status ≠ .cancelled) :
    state.lastValue = c.values.find? field ∨
      ∃ timer ∈ c.clock.timers, timer.key = some field ∧ timer.event = .evaluate field := by
  cases hwaiting : c.clock.isPending field with
  | false => exact .inl ((hreach.shown henglish hfind).settled hwaiting hactive)
  | true =>
    obtain ⟨timer, hmem, hkey⟩ := List.any_eq_true.1 hwaiting
    have hkey : timer.key = some field := of_decide_eq_true hkey
    -- a timer has the key of a field only if it waits with the evaluation of this field
    have hevent := hreach.sound.regular.clock.key_eq timer hmem
    rw [hkey] at hevent
    refine .inr ⟨timer, hmem, hkey, ?_⟩
    cases htimer : timer.event with
    | evaluate other =>
      rw [htimer] at hevent
      rw [Option.some.inj hevent]
    | reply inquiry results =>
      rw [htimer] at hevent
      cases hevent

/-- Two fields that wait for their evaluations, one of which is then evaluated at
once because it compares with the other one. -/
def overtaking : Context :=
  (start Message.english.translator { debounce := 100 }
    [("taken", ⟨fun _ => ⟨20, .ok ⟨true, none⟩⟩⟩)]).run
    [.register { name := "word", rules := "required" },
      .register { name := "copy", rules := "match:word|remote:taken" },
      .setValue "copy" "owl", .advance 50, .setValue "word" "owl"]

/-- The field that has changed last waits, and the one that compares with it has
been evaluated with its current value. -/
theorem lastValue_eq_or_waits_overtaking :
    ∃ word copy, overtaking.fields.find? "word" = some word ∧ word.status = .pending ∧
      overtaking.fields.find? "copy" = some copy ∧ copy.status = .awaitingRemote ∧
      (∃ timer ∈ overtaking.clock.timers, timer.key = some "word" ∧
        timer.event = .evaluate "word") ∧
      copy.lastValue = overtaking.values.find? "copy" := by
  have hreach : overtaking.Reachable := (Reachable.start _ _ _).run _
  have hwaits : ∀ word ∈ overtaking.fields.find? "word",
      word.status = .pending ∧ word.lastValue ≠ overtaking.values.find? "word" := by
    decide +kernel
  have hends : ∀ copy ∈ overtaking.fields.find? "copy",
      copy.status = .awaitingRemote ∧ overtaking.clock.isPending "copy" = false := by
    decide +kernel
  obtain ⟨word, hword⟩ := Option.isSome_iff_exists.1
    (show (overtaking.fields.find? "word").isSome = true by decide +kernel)
  obtain ⟨copy, hcopy⟩ := Option.isSome_iff_exists.1
    (show (overtaking.fields.find? "copy").isSome = true by decide +kernel)
  obtain ⟨hpending, hlast⟩ := hwaits word hword
  obtain ⟨hawaiting, hnot⟩ := hends copy hcopy
  refine ⟨word, copy, hword, hpending, hcopy, hawaiting, ?_, ?_⟩
  · exact (lastValue_eq_or_waits hreach rfl hword (by rw [hpending]; exact nofun)).resolve_left
      hlast
  · refine (lastValue_eq_or_waits hreach rfl hcopy (by rw [hawaiting]; exact nofun)).resolve_right ?_
    rintro ⟨timer, hmem, hkey, -⟩
    exact List.any_eq_false.1 hnot timer hmem (decide_eq_true hkey)

/-- A field is evaluated, changes while its callback is asked, and gets the reply
before it is evaluated again. -/
def hasty : Context :=
  (start Message.english.translator { debounce := 100 }
    [("taken", ⟨fun _ => ⟨20, .ok ⟨true, none⟩⟩⟩)]).run
    [.register { name := "nick", rules := "remote:taken" }, .setValue "nick" "ann", .advance 100,
      .setValue "nick" "bob", .advance 50]

theorem Reachable.hasty : hasty.Reachable :=
  (Reachable.start _ _ _).run _

/-- The reply about the first value has overtaken the evaluation of the second. -/
theorem overtaken_of_hasty :
    Overtaken "nick" (hasty.marks "nick") ∧ hasty.clock.isPending "nick" = true := by
  have hresult : ∀ state ∈ hasty.fields.find? "nick",
      state.status.isResult = true ∧ state.lastValue ≠ hasty.values.find? "nick" := by
    decide +kernel
  obtain ⟨state, hfind⟩ := Option.isSome_iff_exists.1
    (show (hasty.fields.find? "nick").isSome = true by decide +kernel)
  obtain ⟨heq_iff, hwaits⟩ :=
    lastValue_eq_iff_not_overtaken .hasty rfl hfind (hresult state hfind).1
  have hovertaken := not_not.1 (heq_iff.not.1 (hresult state hfind).2)
  exact ⟨hovertaken, hwaits hovertaken⟩

/-- Nothing more happens until the clock moves. -/
def Quiet (c : Context) : Prop :=
  c.ready = [] ∧ ∀ timer ∈ c.clock.timers, c.clock.now < timer.due

instance (c : Context) : Decidable c.Quiet :=
  inferInstanceAs (Decidable (c.ready = [] ∧ ∀ timer ∈ c.clock.timers, c.clock.now < timer.due))

/-- A field may show a result that is not about its current value. -/
theorem not_forall_lastValue_eq :
    ¬ ∀ c : Context, c.Reachable → c.translator = Message.english.translator → c.Quiet →
      ∀ field state, c.fields.find? field = some state → state.status.isResult = true →
        state.lastValue = c.values.find? field := by
  intro hall
  have hresult : ∀ state ∈ hasty.fields.find? "nick",
      state.status = .valid ∧ state.lastValue = some "ann" := by
    decide +kernel
  have hvalue : hasty.values.find? "nick" = some "bob" := by decide +kernel
  obtain ⟨state, hfind⟩ := Option.isSome_iff_exists.1
    (show (hasty.fields.find? "nick").isSome = true by decide +kernel)
  obtain ⟨hvalid, hlast⟩ := hresult state hfind
  have heq := hall hasty .hasty rfl (by decide +kernel) "nick" state hfind (by rw [hvalid]; rfl)
  rw [hlast, hvalue] at heq
  exact absurd heq (by decide)

end Context

end FieldRules
