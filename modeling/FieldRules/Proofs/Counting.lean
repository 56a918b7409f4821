import Mathlib.Data.List.Forall2
import FieldRules.Context.Basic
import FieldRules.Proofs.EnglishMessages
import FieldRules.Proofs.PlainChains

/-!
# A chain counts its validators

The final result of a chain, after all its callbacks have replied, is what comes
of asking each validator on its own: it is valid if as many pass as have to, and
otherwise has one message for each of the others.  That the engine stops early,
drops what is no longer needed and counts in two parts makes no difference.

* `Trial`: the circumstances of an evaluation, with the replies of the callbacks.
* `Engine.ending`: the final result.
* `ran_run`, `collected_of_collect`: what the two parts of the engine count.
* `exists_ending_counts`: the final result counts.
-/

namespace FieldRules

/-- No chain needs more passes than it has validators. -/
theorem Requirement.target_le (requirement : Requirement) (total : Nat) :
    requirement.target total ≤ total := by
  cases requirement with
  | all => exact le_refl total
  | one => exact Nat.min_le_left total 1
  | atLeast n => exact Nat.min_le_left total n

/-! ## Validators on their own -/

/-- The circumstances of an evaluation: the value, the values of other fields, and
what the callbacks reply to the validators at each position, after any delay. -/
structure Trial where
  value : Option String
  others : String → Option String
  outcome : (index : Nat) → Outcome
  delay : (index : Nat) → Nat

namespace Trial

variable (trial : Trial) (engine : Engine)

/-- The replies to the callbacks that an evaluation asks. -/
def replies (checks : List PendingCheck) : Replies :=
  checks.map fun check => (check, ⟨trial.delay check.index, .ok (trial.outcome check.index)⟩)

/-- Whether the validator at a position passes. -/
def passes (item : Validator × Nat) : Bool :=
  (item.1.passes? trial.value trial.others).getD (trial.outcome item.2).valid

/-- The message of the validator at a position if it fails. -/
def complaint (item : Validator × Nat) : Except ConfigError String :=
  match item.1.callback? with
  | some (kind, name) =>
    engine.refusal (Evaluation.pendingCheck item.1 item.2 kind name) (trial.outcome item.2)
  | none =>
    Message.resolve engine.translator (item.1.failureKey (trial.value.getD "")) item.1.params
      item.1.alt

/-- The messages are those of the validators. -/
def Complaints (items : List (Validator × Nat)) (messages : List String) : Prop :=
  List.Forall₂ (fun item message => trial.complaint engine item = .ok message) items messages

/-- How many validators of a chain pass. -/
def count (validators : List Validator) : Nat :=
  validators.zipIdx.countP trial.passes

/-- The validators of a chain that fail, with their positions. -/
def failing (validators : List Validator) : List (Validator × Nat) :=
  validators.zipIdx.filter fun item => !trial.passes item

end Trial

/-! ## The final result -/

/-- The final result of an evaluation, with the messages that it is composed of. -/
structure Ending where
  valid : Bool
  message : String
  messages : List String
  deriving DecidableEq, Repr

namespace Engine

variable {engine : Engine} {trial : Trial} {field : String}

/-- The result of an evaluation and of its callbacks together.  No messages are
put together for a valid one. -/
def endingOf (engine : Engine) (e : Evaluation) (verdict : Verdict) : Ending :=
  let settled := engine.settle e verdict
  ⟨settled.valid, settled.message, if settled.valid then [] else e.messages ++ verdict.messages⟩

/-- The final result of an evaluation, once its callbacks have replied. -/
def ending (engine : Engine) (field : String) (trial : Trial) (e : Evaluation) :
    Except ConfigError Ending :=
  if e.isAwaiting then
    (engine.collect field (trial.replies e.pending).results).map (engine.endingOf e)
  else .ok ⟨e.valid, e.message, e.messages⟩

/-- A final result counts the validators of a chain. -/
structure Counts (engine : Engine) (state : FieldState) (trial : Trial) (ending : Ending) :
    Prop where
  valid_iff : ending.valid = true ↔
    state.requirement.target state.validators.length ≤ trial.count state.validators
  message : ending.message = engine.compose ending.messages
  valid : ending.valid = true → ending.messages = []
  invalid : ending.valid = false → ending.messages ≠ [] ∧
    ∃ items, items.Perm (trial.failing state.validators) ∧
      trial.Complaints engine items ending.messages

/-! ## The validators that need no callback -/

/-- The callback to ask for the validator at a position. -/
def check? (item : Validator × Nat) : Option PendingCheck :=
  item.1.callback?.map fun (kind, name) => Evaluation.pendingCheck item.1 item.2 kind name

/-- The validators that ask a callback. -/
def deferred (items : List (Validator × Nat)) : List (Validator × Nat) :=
  items.filter fun item => (check? item).isSome

/-- The validators that ask none. -/
def immediate (items : List (Validator × Nat)) : List (Validator × Nat) :=
  items.filter fun item => !(check? item).isSome

variable {item : Validator × Nat} {items : List (Validator × Nat)} {check : PendingCheck}
  {e e' : Evaluation} {dependencies : List Target}

theorem deferred_cons_of_some (hcheck : check? item = some check)
    (items : List (Validator × Nat)) :
    deferred (item :: items) = item :: deferred items :=
  List.filter_cons_of_pos (by rw [hcheck]; rfl)

theorem deferred_cons_of_none (hcheck : check? item = none)
    (items : List (Validator × Nat)) :
    deferred (item :: items) = deferred items :=
  List.filter_cons_of_neg (by simp [hcheck])

theorem immediate_cons_of_some (hcheck : check? item = some check)
    (items : List (Validator × Nat)) :
    immediate (item :: items) = immediate items :=
  List.filter_cons_of_neg (by simp [hcheck])

theorem immediate_cons_of_none (hcheck : check? item = none)
    (items : List (Validator × Nat)) :
    immediate (item :: items) = item :: immediate items :=
  List.filter_cons_of_pos (by simp [hcheck])

/-- All validators have been run. -/
structure Completed (engine : Engine) (trial : Trial) (items : List (Validator × Nat))
    (e e' : Evaluation) : Prop where
  passes : e'.passes = e.passes + (immediate items).countP trial.passes
  pending : e'.pending = e.pending ++ items.filterMap check?
  messages : ∃ messages, e'.messages = e.messages ++ messages ∧
    trial.Complaints engine ((immediate items).filter (!trial.passes ·)) messages

/-- Validators have been run in order: all of them, unless enough have passed. -/
structure Ran (engine : Engine) (trial : Trial) (items : List (Validator × Nat))
    (e e' : Evaluation) : Prop where
  target : e'.target = e.target
  passes_le : e'.passes ≤ e.passes + (immediate items).countP trial.passes
  completed : e'.passes < e.target → Completed engine trial items e e'

/-! ### What one validator adds -/

namespace Ran

theorem nil (e : Evaluation) : Ran engine trial [] e e where
  target := rfl
  passes_le := le_refl _
  completed _ := ⟨rfl, (List.append_nil _).symm, [], (List.append_nil _).symm, .nil⟩

theorem asked (hcheck : check? item = some check)
    (hran : Ran engine trial items (e.addPending check) e') :
    Ran engine trial (item :: items) e e' := by
  have himmediate := immediate_cons_of_some hcheck items
  refine ⟨hran.target, himmediate ▸ hran.passes_le, fun hless => ?_⟩
  obtain ⟨hpasses, hpending, hmessages⟩ := hran.completed hless
  refine ⟨himmediate ▸ hpasses, ?_, himmediate ▸ hmessages⟩
  rw [hpending, List.filterMap_cons, hcheck, Evaluation.addPending, List.append_assoc]
  rfl

theorem enough (hcheck : check? item = none) (hpasses : trial.passes item = true)
    (henough : e.target ≤ e.passes + 1) :
    Ran engine trial (item :: items) e { e with passes := e.passes + 1, dependencies } where
  target := rfl
  passes_le := by
    rw [immediate_cons_of_none hcheck, List.countP_cons_of_pos hpasses]
    exact Nat.add_le_add_left (Nat.le_add_left 1 _) _
  completed hless := absurd hless (Nat.not_lt.2 henough)

theorem passed (hcheck : check? item = none) (hpasses : trial.passes item = true)
    (hran : Ran engine trial items { e with passes := e.passes + 1, dependencies } e') :
    Ran engine trial (item :: items) e e' := by
  have hcount : e.passes + (immediate (item :: items)).countP trial.passes =
      e.passes + 1 + (immediate items).countP trial.passes := by
    rw [immediate_cons_of_none hcheck, List.countP_cons_of_pos hpasses]
    omega
  refine ⟨hran.target, hcount ▸ hran.passes_le, fun hless => ?_⟩
  obtain ⟨htotal, hpending, hmessages⟩ := hran.completed hless
  refine ⟨hcount ▸ htotal, ?_, ?_⟩
  · rw [hpending, List.filterMap_cons, hcheck]
  · rw [immediate_cons_of_none hcheck, List.filter_cons_of_neg (by simp [hpasses])]
    exact hmessages

theorem failed (hcheck : check? item = none) (hpasses : trial.passes item = false)
    {message : String} (hmessage : trial.complaint engine item = .ok message)
    (hran : Ran engine trial items
      { e with messages := e.messages ++ [message], dependencies } e') :
    Ran engine trial (item :: items) e e' := by
  have hcount : (immediate (item :: items)).countP trial.passes =
      (immediate items).countP trial.passes := by
    rw [immediate_cons_of_none hcheck, List.countP_cons_of_neg (by simp [hpasses])]
  refine ⟨hran.target, hcount ▸ hran.passes_le, fun hless => ?_⟩
  obtain ⟨htotal, hpending, messages, hmessages, hcomplaints⟩ := hran.completed hless
  refine ⟨hcount ▸ htotal, ?_, message :: messages, ?_, ?_⟩
  · rw [hpending, List.filterMap_cons, hcheck]
  · rw [hmessages, List.append_assoc]
    rfl
  · rw [immediate_cons_of_none hcheck, List.filter_cons_of_pos (by simp [hpasses])]
    exact .cons hmessage hcomplaints

end Ran

/-! ### Validators one by one -/

theorem check?_of_some {v : Validator} {kind : CallbackKind} {name : String}
    (hcallback : v.callback? = some (kind, name)) (index : Nat) :
    check? (v, index) = some (Evaluation.pendingCheck v index kind name) := by
  rw [check?, hcallback]
  rfl

theorem check?_of_none {v : Validator} (hcallback : v.callback? = none) (index : Nat) :
    check? (v, index) = none := by
  rw [check?, hcallback]
  rfl

theorem passes_of_some {v : Validator} {asked : CallbackKind × String}
    (hcallback : v.callback? = some asked) (index : Nat) :
    trial.passes (v, index) = (trial.outcome index).valid := by
  unfold Validator.callback? at hcallback
  unfold Trial.passes Validator.passes?
  cases hcheck : v.check with
  | callback kind name => rfl
  | _ =>
    rw [hcheck] at hcallback
    cases hcallback

theorem passes_of_none {v : Validator} (hcallback : v.callback? = none) (index : Nat) :
    trial.passes (v, index) = (v.passes? trial.value trial.others).getD true := by
  unfold Validator.callback? at hcallback
  unfold Trial.passes Validator.passes?
  cases hcheck : v.check with
  | callback kind name =>
    rw [hcheck] at hcallback
    cases hcallback
  | _ => rfl

/-- Running a part of a chain runs its validators one by one. -/
theorem ran_run (validators : List Validator) :
    ∀ (index : Nat) (e e' : Evaluation),
      engine.run trial.value trial.others index validators e = .ok e' →
      Ran engine trial (validators.zipIdx index) e e' := by
  induction validators with
  | nil =>
    rintro index e e' ⟨⟩
    exact .nil e
  | cons v rest ih =>
    intro index e e' hrun
    rw [run] at hrun
    rw [List.zipIdx_cons]
    cases hcallback : v.callback? with
    | some asked =>
      rw [hcallback] at hrun
      exact .asked (check?_of_some hcallback index) (ih _ _ _ hrun)
    | none =>
      have hcheck := check?_of_none hcallback index
      rw [hcallback] at hrun
      dsimp only at hrun
      rw [← passes_of_none hcallback index] at hrun
      split at hrun
      · rename_i hpass
        split at hrun
        · rename_i henough
          cases hrun
          exact .enough (e := e) hcheck hpass henough
        · exact .passed hcheck hpass (ih _ _ _ hrun)
      · rename_i hfail
        obtain ⟨message, hmessage, hrun⟩ := bind_eq_ok hrun
        refine .failed hcheck (Bool.eq_false_iff.2 hfail) ?_ (ih _ _ _ hrun)
        rw [Trial.complaint, hcallback]
        exact hmessage

/-! ## The validators that ask a callback -/

theorem refusal_of_speaks (henglish : engine.translator = Message.english.translator)
    {v : Validator} (hspeaks : v.Speaks) {kind : CallbackKind} {name : String}
    (hcallback : v.callback? = some (kind, name)) (index : Nat) (outcome : Outcome) :
    ∃ message, engine.refusal (Evaluation.pendingCheck v index kind name) outcome =
      .ok message := by
  have hkey : v.failureKey "" = v.key := by
    unfold Validator.callback? at hcallback
    unfold Validator.failureKey
    cases hcheck : v.check with
    | auto length number =>
      rw [hcheck] at hcallback
      cases hcallback
    | _ => rfl
  obtain ⟨message, hmessage⟩ := resolve_of_speaks (henglish ▸ Message.english_covers) hspeaks ""
  rw [hkey] at hmessage
  unfold refusal
  cases outcome.message with
  | none => exact ⟨message, hmessage⟩
  | some own =>
    dsimp only
    split
    · exact ⟨message, hmessage⟩
    · exact ⟨own, rfl⟩

/-- What the callbacks have replied is counted in the same way. -/
structure Collected (engine : Engine) (trial : Trial) (items : List (Validator × Nat))
    (verdict : Verdict) : Prop where
  passes : verdict.passes = (deferred items).countP trial.passes
  messages : trial.Complaints engine ((deferred items).filter (!trial.passes ·)) verdict.messages

theorem results_replies_cons_of_some {kind : CallbackKind} {name : String} {v : Validator}
    (hcallback : v.callback? = some (kind, name)) (index : Nat) (rest : List (Validator × Nat)) :
    (trial.replies (((v, index) :: rest).filterMap check?)).results =
      (Evaluation.pendingCheck v index kind name, .ok (trial.outcome index)) ::
        (trial.replies (rest.filterMap check?)).results := by
  rw [List.filterMap_cons, check?_of_some hcallback index]
  rfl

theorem collected_of_collect {verdict : Verdict}
    (hcollect : engine.collect field (trial.replies (items.filterMap check?)).results =
      .ok verdict) : Collected engine trial items verdict := by
  induction items generalizing verdict with
  | nil =>
    cases hcollect
    exact ⟨rfl, .nil⟩
  | cons item rest ih =>
    obtain ⟨v, index⟩ := item
    cases hcallback : v.callback? with
    | none =>
      have hcheck := check?_of_none hcallback index
      have hdeferred := deferred_cons_of_none hcheck rest
      rw [List.filterMap_cons, hcheck] at hcollect
      obtain ⟨hpasses, hmessages⟩ := ih hcollect
      exact ⟨hdeferred ▸ hpasses, hdeferred ▸ hmessages⟩
    | some asked =>
      obtain ⟨kind, name⟩ := asked
      have hdeferred := deferred_cons_of_some (check?_of_some hcallback index) rest
      have hvalid : trial.passes (v, index) = (trial.outcome index).valid :=
        passes_of_some hcallback index
      rw [results_replies_cons_of_some hcallback, collect, ← hvalid] at hcollect
      split at hcollect
      · rename_i hpass
        obtain ⟨counted, hcounted, heq⟩ := bind_eq_ok hcollect
        cases heq
        obtain ⟨hpasses, hmessages⟩ := ih hcounted
        refine ⟨?_, ?_⟩
        · rw [hdeferred, List.countP_cons_of_pos hpass, ← hpasses]
        · rw [hdeferred, List.filter_cons_of_neg (by simp [hpass])]
          exact hmessages
      · rename_i hfail
        obtain ⟨message, hmessage, hcollect⟩ := bind_eq_ok hcollect
        obtain ⟨counted, hcounted, heq⟩ := bind_eq_ok hcollect
        cases heq
        obtain ⟨hpasses, hmessages⟩ := ih hcounted
        have hcomplaint : trial.complaint engine (v, index) = .ok message := by
          rw [Trial.complaint, hcallback]
          exact hmessage
        refine ⟨?_, ?_⟩
        · rw [hdeferred, List.countP_cons_of_neg hfail, ← hpasses]
        · rw [hdeferred, List.filter_cons_of_pos (by simp [hfail])]
          exact .cons hcomplaint hmessages

/-- English messages leave no reply without an outcome. -/
theorem exists_collect (henglish : engine.translator = Message.english.translator) (field : String)
    (hspeaks : ∀ item ∈ items, item.1.Speaks) :
    ∃ verdict,
      engine.collect field (trial.replies (items.filterMap check?)).results = .ok verdict := by
  induction items with
  | nil => exact ⟨⟨0, []⟩, rfl⟩
  | cons item rest ih =>
    obtain ⟨verdict, hverdict⟩ := ih fun item hmem => hspeaks item (List.mem_cons_of_mem _ hmem)
    obtain ⟨v, index⟩ := item
    cases hcallback : v.callback? with
    | none =>
      rw [List.filterMap_cons, check?_of_none hcallback index]
      exact ⟨verdict, hverdict⟩
    | some asked =>
      obtain ⟨message, hmessage⟩ := refusal_of_speaks henglish
        (hspeaks (v, index) List.mem_cons_self) hcallback index (trial.outcome index)
      rw [results_replies_cons_of_some hcallback, collect, hverdict, hmessage]
      split <;> exact ⟨_, rfl⟩

/-! ## Both parts together -/

theorem count_eq (trial : Trial) (validators : List Validator) :
    trial.count validators = (immediate validators.zipIdx).countP trial.passes +
      (deferred validators.zipIdx).countP trial.passes := by
  rw [Trial.count, List.countP_eq_countP_filter_add _ _ fun item => (check? item).isSome,
    Nat.add_comm]
  simp only [immediate, deferred]

theorem failing_perm (trial : Trial) (validators : List Validator) :
    ((immediate validators.zipIdx).filter (!trial.passes ·) ++
      (deferred validators.zipIdx).filter (!trial.passes ·)).Perm (trial.failing validators) := by
  rw [← List.filter_append]
  exact ((List.perm_append_comm).trans (List.filter_append_perm _ _)).filter _

theorem length_failing (trial : Trial) (validators : List Validator) :
    (trial.failing validators).length = validators.length - trial.count validators := by
  have hlength := List.length_eq_countP_add_countP trial.passes (l := validators.zipIdx)
  rw [List.length_zipIdx, ← Trial.count] at hlength
  rw [Trial.failing, ← List.countP_eq_length_filter, hlength, Nat.add_sub_cancel_left]
  simp

theorem ending_of_enough (henough : e.target ≤ e.passes) :
    engine.ending field trial (engine.conclude e) = .ok ⟨true, "", []⟩ := by
  rw [conclude, if_pos henough, compose_nil]
  rfl

theorem endingOf_of_enough {verdict : Verdict} (henough : e.target ≤ e.passes + verdict.passes) :
    engine.endingOf e verdict = ⟨true, "", []⟩ := by
  rw [endingOf, settle, if_pos henough]
  rfl

theorem endingOf_of_less {verdict : Verdict} (hless : e.passes + verdict.passes < e.target) :
    engine.endingOf e verdict = ⟨false, engine.compose (e.messages ++ verdict.messages),
      e.messages ++ verdict.messages⟩ := by
  rw [endingOf, settle, if_neg (Nat.not_le.2 hless)]
  rfl

/-- As long as not enough validators have passed, the callbacks decide.  If there
are none they decide nothing. -/
theorem ending_of_less (hless : e.passes < e.target) {verdict : Verdict}
    (hcollect : engine.collect field (trial.replies e.pending).results = .ok verdict) :
    engine.ending field trial (engine.conclude e) = .ok (engine.endingOf e verdict) := by
  rw [conclude, if_neg (Nat.not_le.2 hless), ending, Evaluation.isAwaiting]
  dsimp only
  cases hpending : e.pending with
  | nil =>
    rw [hpending] at hcollect
    cases hcollect
    have hsame : e.passes + (⟨0, []⟩ : Verdict).passes < e.target := hless
    rw [endingOf_of_less hsame, List.append_nil]
    rfl
  | cons check rest =>
    rw [← hpending, hcollect, hpending]
    rfl

/-- Too few validators pass, and the messages are those of the others. -/
theorem Counts.of_less {state : FieldState} {items : List (Validator × Nat)} {messages : List String}
    (hless : trial.count state.validators < state.requirement.target state.validators.length)
    (hitems : items.Perm (trial.failing state.validators))
    (hcomplaints : trial.Complaints engine items messages) :
    Counts engine state trial ⟨false, engine.compose messages, messages⟩ := by
  refine ⟨iff_of_false Bool.false_ne_true (Nat.not_le.2 hless), rfl, nofun, fun _ =>
    ⟨?_, items, hitems, hcomplaints⟩⟩
  rintro rfl
  have hlength : items.length = 0 := hcomplaints.length_eq
  rw [hitems.length_eq, length_failing] at hlength
  have htarget := state.requirement.target_le state.validators.length
  omega

/-- Enough validators pass. -/
theorem Counts.of_enough {state : FieldState}
    (henough : state.requirement.target state.validators.length ≤ trial.count state.validators) :
    Counts engine state trial ⟨true, "", []⟩ :=
  ⟨iff_of_true rfl henough, (compose_nil engine).symm, fun _ => rfl, nofun⟩

/-- The final result of a chain that is evaluated with English messages counts its
validators. -/
theorem exists_ending_counts (henglish : engine.translator = Message.english.translator)
    {state : FieldState} (hcompiled : state.Compiled) (hskips : skips state trial.value = false)
    (field : String) :
    ∃ e ending, engine.evaluate state trial.value trial.others = .ok e ∧
      engine.ending field trial e = .ok ending ∧ Counts engine state trial ending := by
  obtain ⟨compiled, hcompile, hvalidators, -⟩ := hcompiled
  obtain ⟨e, he⟩ := exists_evaluate_of_covers (henglish ▸ Message.english_covers) hcompile hvalidators trial.value trial.others
  rcases evaluate_eq_ok_iff.1 he with ⟨hskipped, -⟩ | ⟨-, ran, hrun, rfl⟩
  · cases hskips.symm.trans hskipped
  have hcount := count_eq trial state.validators
  obtain ⟨htarget, hle, hcompleted⟩ := ran_run _ _ _ _ hrun
  dsimp only at htarget hle hcompleted
  rw [Nat.zero_add] at hle
  by_cases henough : ran.target ≤ ran.passes
  · refine ⟨_, _, he, ending_of_enough henough, .of_enough ?_⟩
    omega
  obtain ⟨hpasses, hpending, messages, hmessages, hcomplaints⟩ := hcompleted (by omega)
  have hspeaks : ∀ item ∈ state.validators.zipIdx, item.1.Speaks := fun item hmem =>
    Rule.speaks_of_compile hcompile _ (hvalidators ▸ List.fst_mem_of_mem_zipIdx hmem)
  obtain ⟨verdict, hverdict⟩ : ∃ verdict,
      engine.collect field (trial.replies (state.validators.zipIdx.filterMap check?)).results =
        .ok verdict := exists_collect henglish field hspeaks
  have hcollected := collected_of_collect hverdict
  have hreplied : engine.collect field (trial.replies ran.pending).results = .ok verdict := by
    rw [hpending]
    exact hverdict
  have htotal : ran.passes + verdict.passes = trial.count state.validators := by
    rw [hcount, hcollected.passes, hpasses, Nat.zero_add]
  refine ⟨_, _, he, ending_of_less (Nat.not_le.1 henough) hreplied, ?_⟩
  by_cases hsettled : ran.target ≤ ran.passes + verdict.passes
  · rw [endingOf_of_enough hsettled]
    exact .of_enough (by omega)
  · rw [endingOf_of_less (Nat.not_le.1 hsettled), hmessages]
    exact .of_less (by omega) (failing_perm trial state.validators)
      (List.rel_append hcomplaints hcollected.messages)

/-- A field two of whose validators ask a callback, and three of which must pass. -/
def mixedChain : Option FieldState :=
  (Rule.compile "required|min_len:3|remote:free|custom:clean").toOption.map fun compiled =>
    .fresh "nick" "required|min_len:3|remote:free|custom:clean" compiled
      { requirement := some (.atLeast 3) } {}

/-- A value that is too short and that one of the callbacks refuses. -/
def mixedTrial : Trial where
  value := some "ab"
  others _ := none
  outcome index := if index = 2 then ⟨true, none⟩ else ⟨false, some "Not clean."⟩
  delay index := 30 - 10 * index

theorem exists_ending_counts_of_mixedChain :
    ∃ state ∈ mixedChain, mixedTrial.count state.validators = 2 ∧
      state.requirement.target state.validators.length = 3 ∧
      ∃ e ending, english.evaluate state mixedTrial.value mixedTrial.others = .ok e ∧
        english.ending "nick" mixedTrial e = .ok ending ∧ Counts english state mixedTrial ending := by
  have hcounts : ∀ state ∈ mixedChain, mixedTrial.count state.validators = 2 ∧
      state.requirement.target state.validators.length = 3 ∧
      skips state mixedTrial.value = false := by
    decide +kernel
  obtain ⟨state, hstate⟩ := Option.isSome_iff_exists.1
    (show mixedChain.isSome = true by decide +kernel)
  obtain ⟨compiled, hcompile, rfl⟩ := Option.map_eq_some_iff.1 hstate
  obtain ⟨hcount, htarget, hskips⟩ := hcounts _ hstate
  exact ⟨_, hstate, hcount, htarget,
    exists_ending_counts rfl ⟨compiled, eq_ok_of_toOption hcompile, rfl, rfl⟩ hskips "nick"⟩

end Engine

end FieldRules
