import FieldRules.Proofs.Deeds

/-!
# What becomes of errors

An evaluation fails if a message cannot be found.  Its error is either returned by the
operation that performs it, or kept until the errors are taken.  An inquiry that fails
keeps its error as well, unless it is out of date.  Over a whole run no error is lost,
and none is told twice.

* `Record`: one thing that happens, with what is done and answered.
* `Context.History`: the records of a run.
* `exists_history`: every run has a history.
* `Accounts`: what the records of a run tell about errors.
* `accounts_of_leads`: it is true of the records of every run.
-/

namespace FieldRules

/-! ## Records -/

/-- Whether an operation returns the error of an evaluation that it performs. -/
def Operation.isDirect : Operation → Bool
  | .register _ | .setRules .. | .setDisabled .. | .validate _ | .checkForm _ | .resetForm .. => true
  | .unregister _ | .setValue .. | .clearValue _ | .advance _ | .setCallback .. | .removeCallback _
  | .takeErrors => false

namespace Answer

/-- The error that is returned, if one is. -/
def refusal? : Answer → Option ConfigError
  | refused e => some e
  | done | flag _ | report _ | errors _ => none

/-- The errors that are taken. -/
def drained : Answer → List ConfigError
  | errors taken => taken
  | done | flag _ | report _ | refused _ => []

end Answer

/-- One thing that happens: a call of an operation and its answer, or something that nobody
waits for, together with what is done. -/
inductive Record where
  | call (operation : Operation) (answer : Answer) (deeds : List Deed)
  | background (deeds : List Deed)

namespace Record

/-- What is done. -/
def deeds : Record → List Deed
  | call _ _ deeds => deeds
  | background deeds => deeds

/-- The errors of which the caller of an operation should be told. -/
def told : Record → List ConfigError
  | call operation _ deeds =>
    if operation.isDirect then deeds.filterMap (·.error?) else []
  | background _ => []

/-- The errors that should be kept. -/
def kept : Record → List ConfigError
  | call operation _ deeds =>
    if operation.isDirect then [] else deeds.filterMap (·.error?)
  | background deeds => deeds.filterMap (·.error?)

/-- The errors that are taken. -/
def drained : Record → List ConfigError
  | call _ answer _ => answer.drained
  | background _ => []

/-- The caller of an operation is told: where anything is done, the operation returns the
error of the deed that fails, and no error if none fails. -/
def Returns : Record → Prop
  | call operation answer deeds =>
    deeds ≠ [] → (call operation answer deeds).told = answer.refusal?.toList
  | background _ => True

end Record

namespace Context

variable {c d : Context} {record : Record} {records : List Record} {operation : Operation}

/-! ## Histories -/

/-- One thing that happens to a context, with its record. -/
inductive Happens (c : Context) : Record → Context → Prop where
  | operation (operation : Operation) (hnow : ∀ ms, operation ≠ .advance ms) :
      Happens c (.call operation (c.perform operation).2 (c.deeds operation))
        (c.perform operation).1
  | ask {before after : List Inquiry} {inquiry : Inquiry}
      (hready : c.ready = before ++ inquiry :: after) (replies : Replies)
      (hreplies : replies.map (·.1) = inquiry.evaluation.pending) :
      Happens c (.background []) ({ c with ready := before ++ after }.listen inquiry replies)
  | fire {before after : List (Timer Event)} {timer : Timer Event}
      (htimers : c.clock.timers = before ++ timer :: after) :
      Happens c (.background (timer.event.deeds (c.atInstant c.clock.now (before ++ after))))
        ((c.atInstant c.clock.now (before ++ after)).fire timer.event)
  | wait (now : Nat) : Happens c (.background []) (c.atInstant now c.clock.timers)

/-- Some things that happen one after the other, with their records. -/
inductive History (c : Context) : List Record → Context → Prop where
  | start : History c [] c
  | next {records : List Record} {record : Record} {d d' : Context}
      (hhistory : History c records d) (hhappens : Happens d record d') :
      History c (records ++ [record]) d'

theorem next_iff_happens : Next c d ↔ ∃ record, Happens c record d := by
  constructor
  · rintro (⟨operation, hnow⟩ | ⟨hready, replies, hreplies⟩ | ⟨htimers⟩ | ⟨now⟩)
    · exact ⟨_, .operation operation hnow⟩
    · exact ⟨_, .ask hready replies hreplies⟩
    · exact ⟨_, .fire htimers⟩
    · exact ⟨_, .wait now⟩
  · rintro ⟨record, ⟨operation, hnow⟩ | ⟨hready, replies, hreplies⟩ | ⟨htimers⟩ | ⟨now⟩⟩
    · exact .operation operation hnow
    · exact .ask hready replies hreplies
    · exact .fire htimers
    · exact .wait now

theorem History.leads (hhistory : c.History records d) : c.Leads d := by
  induction hhistory with
  | start => exact .refl
  | next _ hhappens ih => exact ih.tail (next_iff_happens.2 ⟨_, hhappens⟩)

theorem exists_history (hleads : c.Leads d) : ∃ records, c.History records d := by
  induction hleads with
  | refl => exact ⟨[], .start⟩
  | tail _ hnext ih =>
    obtain ⟨records, hhistory⟩ := ih
    obtain ⟨record, hhappens⟩ := next_iff_happens.1 hnext
    exact ⟨records ++ [record], hhistory.next hhappens⟩

/-! ## Single records -/

/-- What a record tells about errors. -/
structure Accounted (record : Record) (c d : Context) : Prop where
  errors : record.drained ++ d.errors = c.errors ++ record.kept
  returns : record.Returns
  work : d.work = c.work ++ record.deeds.filterMap (·.mark?)
  spoils : ∀ deed ∈ record.deeds, deed.error? ≠ none → deed.Spoils

/-- The errors of what nobody waits for are kept. -/
theorem Keeps.accounted {deeds : List Deed} (hkeeps : Keeps deeds c d) :
    Accounted (.background deeds) c d :=
  ⟨hkeeps.errors, trivial, hkeeps.work, hkeeps.spoils⟩

/-- An operation that tells its caller returns the error of what fails. -/
theorem Tells.accounted {α : Type} {outcome : Context × Except ConfigError α}
    {say : α → Answer} (htells : Tells (c.deeds operation) c outcome)
    (hdirect : operation.isDirect = true)
    (hperform : c.perform operation = outcome.map id (.ofResult say))
    (hsay : ∀ a, (say a).refusal? = none ∧ (say a).drained = []) :
    Accounted (.call operation (c.perform operation).2 (c.deeds operation)) c
      (c.perform operation).1 := by
  obtain ⟨d, result⟩ := outcome
  have hanswer : (Answer.ofResult say result).refusal? = failure? result ∧
      (Answer.ofResult say result).drained = [] := by
    cases result with
    | ok a => exact hsay a
    | error e => exact ⟨rfl, rfl⟩
  rw [hperform]
  refine ⟨?_, fun hne => ?_, htells.carries.work, htells.carries.spoils⟩
  · rw [Record.kept, if_pos hdirect]
    exact (congrArg (· ++ d.errors) hanswer.2).trans htells.carries.errors
  · rw [Record.told, if_pos hdirect]
    exact (htells.told hne).trans (congrArg Option.toList hanswer.1.symm)

/-- An operation that keeps the errors of what fails does not return them. -/
theorem Keeps.accounted_operation (hkeeps : Keeps (c.deeds operation) c (c.perform operation).1)
    (hdirect : operation.isDirect = false) (hdrained : (c.perform operation).2.drained = [])
    (hreturns : c.deeds operation ≠ [] → (c.perform operation).2.refusal? = none) :
    Accounted (.call operation (c.perform operation).2 (c.deeds operation)) c
      (c.perform operation).1 := by
  refine ⟨?_, fun hne => ?_, hkeeps.work, hkeeps.spoils⟩
  · rw [Record.kept, if_neg (Bool.eq_false_iff.1 hdirect)]
    exact (congrArg (· ++ _) hdrained).trans hkeeps.errors
  · rw [Record.told, if_neg (Bool.eq_false_iff.1 hdirect), hreturns hne]
    rfl

/-- A new value keeps the errors of what fails. -/
theorem accounted_change {field : String} {value : Option String} (horderly : c.Orderly)
    (hdirect : operation.isDirect = false)
    (hdeeds : c.deeds operation = c.changeDeeds field value)
    (hperform : c.perform operation = (c.change field value).map id (.ofResult fun _ => .done)) :
    Accounted (.call operation (c.perform operation).2 (c.deeds operation)) c
      (c.perform operation).1 := by
  have hanswer : (c.perform operation).2.drained = [] ∧
      (c.deeds operation ≠ [] → (c.perform operation).2.refusal? = none) := by
    rw [hperform, hdeeds, change, changeDeeds]
    cases c.fields.find? field with
    | none => exact ⟨rfl, absurd rfl⟩
    | some state => exact ⟨rfl, fun _ => rfl⟩
  refine Keeps.accounted_operation ?_ hdirect hanswer.1 hanswer.2
  rw [hdeeds, hperform]
  exact keeps_change horderly field value

theorem accounted_operation (hsound : c.Sound) (operation : Operation)
    (hnow : ∀ ms, operation ≠ .advance ms) :
    Accounted (.call operation (c.perform operation).2 (c.deeds operation)) c
      (c.perform operation).1 := by
  cases operation with
  | register registration =>
    exact (tells_register hsound registration).accounted rfl rfl fun _ => ⟨rfl, rfl⟩
  | setRules field rules =>
    exact (tells_setRules hsound.orderly field rules).accounted rfl rfl fun _ => ⟨rfl, rfl⟩
  | setDisabled field disabled =>
    exact (tells_setDisabled hsound.orderly field disabled).accounted rfl rfl fun _ => ⟨rfl, rfl⟩
  | validate field =>
    exact (tells_validate hsound.orderly field).accounted rfl rfl fun _ => ⟨rfl, rfl⟩
  | checkForm form =>
    exact (tells_checkForm hsound.orderly form).accounted rfl rfl fun _ => ⟨rfl, rfl⟩
  | resetForm form options =>
    exact (tells_resetForm hsound form options).accounted rfl rfl fun _ => ⟨rfl, rfl⟩
  | setValue field value => exact accounted_change hsound.orderly rfl rfl rfl
  | clearValue field => exact accounted_change hsound.orderly rfl rfl rfl
  | unregister field =>
    refine Keeps.accounted_operation ?_ rfl rfl (absurd rfl)
    exact .silent (silent_remove c field)
  | setCallback name callback =>
    refine Keeps.accounted_operation ?_ rfl rfl (absurd rfl)
    exact .silent ⟨rfl, rfl⟩
  | removeCallback name =>
    refine Keeps.accounted_operation ?_ rfl rfl (absurd rfl)
    exact .silent ⟨rfl, rfl⟩
  | takeErrors => exact ⟨rfl, absurd rfl, (List.append_nil _).symm, nofun⟩
  | advance ms => exact absurd rfl (hnow ms)

theorem accounted_of_happens (hsound : c.Sound) (hhappens : Happens c record d) :
    Accounted record c d := by
  cases hhappens with
  | operation operation hnow => exact accounted_operation hsound operation hnow
  | ask hready replies hreplies => exact Keeps.accounted (.silent ⟨rfl, rfl⟩)
  | fire htimers =>
    rename_i before after timer
    have htaken : Silent c (c.atInstant c.clock.now (before ++ after)) := ⟨rfl, rfl⟩
    have horderly : (c.atInstant c.clock.now (before ++ after)).Orderly :=
      ⟨hsound.orderly.named, hsound.orderly.clock.take htimers _⟩
    have hregistered : ∀ field, c.fields.find? field = none →
        c.generations.current? field = none :=
      fun _ hfind => (hsound.absent hfind).current
    have hkeeps := keeps_fire horderly hregistered timer.event
    exact Keeps.accounted ((Carries.silent htaken).trans hkeeps)
  | wait now => exact Keeps.accounted (.silent ⟨rfl, rfl⟩)

/-- When the errors are taken, the answer is all that are there, and none is left. -/
theorem Happens.takes {answer : Answer} {deeds : List Deed}
    (hhappens : Happens c (.call .takeErrors answer deeds) d) :
    answer = .errors c.errors ∧ d.errors = [] := by
  cases hhappens with
  | operation => exact ⟨rfl, rfl⟩

/-! ## Runs -/

/-- What some records and the context that they lead to tell about errors: those that are
kept are taken, once each, or are still to be taken; whenever they are taken, this is all
that have been kept until then and not been taken before, and none is left; the others are
returned; the journal tells of all that is done; and what fails leaves its field invalid. -/
structure Accounts (records : List Record) (c : Context) : Prop where
  errors : records.flatMap (·.drained) ++ c.errors = records.flatMap (·.kept)
  takes : ∀ before answer deeds after, records = before ++ .call .takeErrors answer deeds :: after →
    (∃ taken, answer = .errors taken ∧
      before.flatMap (·.drained) ++ taken = before.flatMap (·.kept)) ∧
    (after = [] → c.errors = [])
  returns : ∀ record ∈ records, record.Returns
  work : c.work = (records.flatMap (·.deeds)).filterMap (·.mark?)
  spoils : ∀ record ∈ records, ∀ deed ∈ record.deeds, deed.error? ≠ none → deed.Spoils

theorem accounts_start (translator : Message.Translator) (config : EngineConfig)
    (callbacks : Callbacks) : Accounts [] (start translator config callbacks) where
  errors := rfl
  takes before answer deeds after heq := by
    simp at heq
  returns _ hmem := absurd hmem List.not_mem_nil
  work := rfl
  spoils _ hmem := absurd hmem List.not_mem_nil

/-- One more record. -/
theorem Accounts.append (haccounts : Accounts records c) (hsound : c.Sound)
    (hhappens : Happens c record d) : Accounts (records ++ [record]) d := by
  have haccounted := accounted_of_happens hsound hhappens
  constructor
  case errors =>
    rw [List.flatMap_append, List.flatMap_append, List.append_assoc, List.flatMap_singleton,
      List.flatMap_singleton, haccounted.errors, ← List.append_assoc, haccounts.errors]
  case takes =>
    intro before answer deeds after heq
    rcases List.eq_nil_or_concat after with rfl | ⟨earlier, last, rfl⟩
    · -- the errors are taken now
      obtain ⟨rfl, hlast⟩ := List.append_inj' heq rfl
      obtain rfl := List.singleton_inj.1 hlast
      obtain ⟨hanswer, hnone⟩ := hhappens.takes
      exact ⟨⟨c.errors, hanswer, haccounts.errors⟩, fun _ => hnone⟩
    · rw [List.concat_eq_append, ← List.cons_append, ← List.append_assoc] at heq
      obtain ⟨hrecords, -⟩ := List.append_inj' heq rfl
      refine ⟨(haccounts.takes before answer deeds earlier hrecords).1, fun hnil => ?_⟩
      simp at hnil
  case returns =>
    intro other hmem
    rcases List.mem_append.1 hmem with hmem | hmem
    · exact haccounts.returns other hmem
    · exact List.mem_singleton.1 hmem ▸ haccounted.returns
  case work =>
    rw [haccounted.work, haccounts.work, List.flatMap_append, List.flatMap_singleton,
      List.filterMap_append]
  case spoils =>
    intro other hmem
    rcases List.mem_append.1 hmem with hmem | hmem
    · exact haccounts.spoils other hmem
    · exact List.mem_singleton.1 hmem ▸ haccounted.spoils

/-- Every run has a history, and in each of its histories every error is accounted for. -/
theorem accounts_of_leads {translator : Message.Translator} {config : EngineConfig}
    {callbacks : Callbacks} (hleads : (start translator config callbacks).Leads c) :
    (∃ records, (start translator config callbacks).History records c) ∧
      ∀ records, (start translator config callbacks).History records c → Accounts records c := by
  refine ⟨exists_history hleads, fun records hhistory => ?_⟩
  clear hleads
  induction hhistory with
  | start => exact accounts_start translator config callbacks
  | next hhistory hhappens ih =>
    have hreach := (Reachable.start translator config callbacks).leads hhistory.leads
    exact ih.append hreach.sound hhappens

/-- A field without a value that no message can be found for.  Its value is taken away, and
it is validated. -/
def voiceless : Context :=
  (start ⟨fun key _ => .error (.missingKey key)⟩ { debounce := 0 } []).run
    [.register { name := "name", rules := "required", value := some "ann" }, .clearValue "name",
      .validate "name"]

/-- Both evaluations fail, and the error of the first one is kept until it is taken. -/
theorem accounts_voiceless :
    let c := start ⟨fun key _ => .error (.missingKey key)⟩ { debounce := 0 } []
    let kept := [ConfigError.untranslatable "INVALID_REQUIRED" (.missingKey "INVALID_REQUIRED")]
    let taken := (voiceless.perform .takeErrors).1
    c.Leads voiceless ∧ voiceless.work.length = 3 ∧ voiceless.errors = kept ∧
      ((∃ records, c.History records voiceless) ∧
        ∀ records, c.History records voiceless → Accounts records voiceless) ∧
      (voiceless.perform .takeErrors).2 = .errors kept ∧ taken.errors = [] ∧
      (∃ records, c.History records taken) ∧
        ∀ records, c.History records taken → Accounts records taken := by
  intro c kept taken
  have hleads : c.Leads voiceless := leads_run c _
  have htaken : c.Leads taken := hleads.tail (.operation .takeErrors nofun)
  have hkept : voiceless.errors = kept := by decide +kernel
  exact ⟨hleads, by decide +kernel, hkept, accounts_of_leads hleads,
    congrArg Answer.errors hkept, rfl, accounts_of_leads htaken⟩

end Context

end FieldRules
