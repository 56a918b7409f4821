import Mathlib.Data.List.Sort
import FieldRules.Proofs.Counting

/-!
# The order of messages

The message of an invalid field is put together from the messages of the validators
that fail.  The validators that ask a callback come last, wherever they are declared,
for they are counted when their callbacks have replied.  So the messages stand in the
order of declaration only where no such validator is declared before another one.

* `Trial.listing`: the validators that fail, in the order of their messages.
* `Trial.InOrder`, `Trial.EndsInOrder`: when this is the order of declaration, and
  when it ends like the order of declaration.
* `complaints_listing`: the messages of an invalid field are listed in this order.
* `lists_of_invalid`: exactly then are they in the order of declaration.
* `not_forall_tells_failing`: a field whose messages are not.
-/

namespace FieldRules

/-- Where some elements of a list are moved to its end, the last one stays the last
if and only if it is among them or there are none. -/
theorem getLast?_filter_append_filter {α : Type} (p : α → Bool) (items : List α) :
    (items.filter (!p ·) ++ items.filter p).getLast? = items.getLast? ↔
      ∀ last ∈ items.getLast?, p last = true ∨ ∀ item ∈ items, p item = false := by
  rw [List.getLast?_append]
  constructor
  · intro heq last hlast
    by_cases hmoved : items.filter p = []
    · exact .inr fun item hmem => Bool.eq_false_iff.2 (List.filter_eq_nil_iff.1 hmoved item hmem)
    · obtain ⟨moved, hmem⟩ := Option.isSome_iff_exists.1 (List.getLast?_isSome.2 hmoved)
      rw [hmem, Option.some_or, hlast, Option.some_inj] at heq
      rw [heq] at hmem
      exact .inl (List.mem_filter.1 (List.mem_of_getLast? hmem)).2
  · intro hlast
    rcases List.eq_nil_or_concat' items with rfl | ⟨before, last, rfl⟩
    · rfl
    rcases hlast last (by simp) with hmoved | hnone
    · simp [hmoved]
    · have hstay : (before ++ [last]).filter p = [] :=
        List.filter_eq_nil_iff.2 fun item hmem => Bool.eq_false_iff.1 (hnone item hmem)
      have hall : (before ++ [last]).filter (!p ·) = before ++ [last] :=
        List.filter_eq_self.2 fun item hmem => by rw [hnone item hmem]; rfl
      rw [hstay, hall]
      rfl

namespace Trial

variable {trial : Trial} {engine : Engine} {validators : List Validator}
  {items items' : List (Validator × Nat)} {messages : List String}

/-! ## Two orders of the validators that fail -/

/-- The validators of a chain that fail, in the order in which their messages are
listed: those that ask a callback come last. -/
def listing (trial : Trial) (validators : List Validator) : List (Validator × Nat) :=
  Engine.immediate (trial.failing validators) ++ Engine.deferred (trial.failing validators)

/-- No validator that fails and asks a callback is declared before one that fails and
asks none. -/
def InOrder (trial : Trial) (validators : List Validator) : Prop :=
  ∀ item ∈ trial.failing validators, ∀ other ∈ trial.failing validators,
    Engine.check? item = none → (Engine.check? other).isSome = true → item.2 < other.2

instance (trial : Trial) (validators : List Validator) : Decidable (trial.InOrder validators) :=
  inferInstanceAs <| Decidable (∀ item ∈ trial.failing validators,
    ∀ other ∈ trial.failing validators,
      Engine.check? item = none → (Engine.check? other).isSome = true → item.2 < other.2)

/-- The last validator that fails asks a callback, or none of those that fail does. -/
def EndsInOrder (trial : Trial) (validators : List Validator) : Prop :=
  ∀ last ∈ (trial.failing validators).getLast?,
    (Engine.check? last).isSome = true ∨
      ∀ item ∈ trial.failing validators, Engine.check? item = none

/-- The message tells of the validators in their order. -/
def Tells (trial : Trial) (engine : Engine) (items : List (Validator × Nat)) (message : String) :
    Prop :=
  ∃ messages, trial.Complaints engine items messages ∧ message = engine.compose messages

theorem listing_perm (trial : Trial) (validators : List Validator) :
    (trial.listing validators).Perm (trial.failing validators) :=
  List.perm_append_comm.trans (List.filter_append_perm _ _)

theorem pairwise_failing (trial : Trial) (validators : List Validator) :
    (trial.failing validators).Pairwise fun item other => item.2 < other.2 := by
  refine List.Pairwise.filter _ (List.pairwise_map.1 ?_)
  rw [List.zipIdx_map_snd]
  exact List.pairwise_lt_range' 1

/-- The messages are listed in the order of declaration if and only if the validators
that ask a callback are declared last. -/
theorem listing_eq_failing_iff :
    trial.listing validators = trial.failing validators ↔ trial.InOrder validators := by
  have hfailing := trial.pairwise_failing validators
  constructor
  · intro heq item hitem other hother hnone hsome
    rw [← heq, listing, List.pairwise_append] at hfailing
    refine hfailing.2.2 item (List.mem_filter.2 ⟨hitem, ?_⟩) other
      (List.mem_filter.2 ⟨hother, hsome⟩)
    rw [hnone]
    rfl
  · intro horder
    refine (trial.listing_perm validators).eq_of_pairwise
      (fun _ _ _ _ hlt hgt => absurd hlt (Nat.lt_asymm hgt)) ?_ hfailing
    refine List.pairwise_append.2 ⟨hfailing.filter _, hfailing.filter _, ?_⟩
    intro item hitem other hother
    obtain ⟨hitem, hnone⟩ := List.mem_filter.1 hitem
    obtain ⟨hother, hsome⟩ := List.mem_filter.1 hother
    exact horder item hitem other hother (by simpa using hnone) hsome

/-- The validator that is listed last is the one that is declared last if and only if
it asks a callback or none does. -/
theorem getLast?_listing_eq_iff :
    (trial.listing validators).getLast? = (trial.failing validators).getLast? ↔
      trial.EndsInOrder validators := by
  refine (getLast?_filter_append_filter _ _).trans ?_
  simp only [Option.isSome_eq_false_iff, Option.isNone_iff_eq_none]
  rfl

/-! ## What the messages say -/

theorem complaints_iff :
    trial.Complaints engine items messages ↔
      items.map (trial.complaint engine) = messages.map .ok := by
  rw [← List.forall₂_eq_eq_eq, List.forall₂_map_left_iff, List.forall₂_map_right_iff]
  rfl

/-- Where all messages are different, each is of one validator only. -/
theorem Complaints.injective (hmessages : trial.Complaints engine items messages)
    (hdistinct : messages.Nodup) {item other : Validator × Nat} (hitem : item ∈ items)
    (hother : other ∈ items) (heq : trial.complaint engine item = trial.complaint engine other) :
    item = other := by
  have hnodup : (items.map (trial.complaint engine)).Nodup := by
    rw [complaints_iff.1 hmessages]
    exact hdistinct.map fun _ _ => Except.ok.inj
  exact List.inj_on_of_nodup_map hnodup hitem hother heq

theorem Complaints.eq_of_nodup (hmessages : trial.Complaints engine items messages)
    (hsame : trial.Complaints engine items' messages) (hdistinct : messages.Nodup)
    (hsub : items' ⊆ items) : items' = items := by
  have heq : items'.map (trial.complaint engine) = items.map (trial.complaint engine) :=
    (complaints_iff.1 hsame).trans (complaints_iff.1 hmessages).symm
  refine List.ext_getElem (by simpa using congrArg List.length heq) fun i hi hi' => ?_
  refine hmessages.injective hdistinct (hsub (List.getElem_mem hi)) (List.getElem_mem hi') ?_
  simpa [List.getElem?_eq_getElem hi, List.getElem?_eq_getElem hi'] using congrArg (·[i]?) heq

/-- The last message is that of the validator that is listed last. -/
theorem Complaints.getLast? (hmessages : trial.Complaints engine items messages) :
    items.getLast?.map (trial.complaint engine) = messages.getLast?.map .ok := by
  rw [← List.getLast?_map, ← List.getLast?_map, complaints_iff.1 hmessages]

/-- A validator is listed last if and only if the last message is its message. -/
theorem Complaints.getLast?_eq_iff (hmessages : trial.Complaints engine items messages)
    (hdistinct : messages.Nodup) {last : Validator × Nat} (hmem : last ∈ items) :
    items.getLast? = some last ↔
      ∃ message ∈ messages.getLast?, trial.complaint engine last = .ok message := by
  have hlast := hmessages.getLast?
  constructor
  · intro heq
    rw [heq] at hlast
    obtain ⟨message, hmessage, hcomplaint⟩ := Option.map_eq_some_iff.1 hlast.symm
    exact ⟨message, hmessage, hcomplaint.symm⟩
  · rintro ⟨message, hmessage, hcomplaint⟩
    rw [hmessage] at hlast
    obtain ⟨item, hitem, heq⟩ := Option.map_eq_some_iff.1 hlast
    rw [hitem, hmessages.injective hdistinct (List.mem_of_getLast? hitem) hmem
      (heq.trans hcomplaint.symm)]

end Trial

/-! ## The messages of an invalid field -/

/-- What the message of an invalid field tells, and when it tells it in the order of
declaration. -/
structure Ending.Lists (ending : Ending) (engine : Engine) (trial : Trial)
    (validators : List Validator) : Prop where
  message : ending.message = engine.compose ending.messages
  messages : trial.Complaints engine (trial.listing validators) ending.messages
  tells : trial.InOrder validators → trial.Tells engine (trial.failing validators) ending.message
  inOrder_iff : ending.messages.Nodup →
    (trial.Complaints engine (trial.failing validators) ending.messages ↔
      trial.InOrder validators)
  endsInOrder_iff : ending.messages.Nodup →
    ((∀ last ∈ (trial.failing validators).getLast?,
      ∃ message ∈ ending.messages.getLast?, trial.complaint engine last = .ok message) ↔
      trial.EndsInOrder validators)

namespace Engine

variable {engine : Engine} {trial : Trial} {field : String} {state : FieldState} {e : Evaluation}
  {ending : Ending}

/-- Where not enough validators pass, the final result is that of both parts. -/
theorem exists_endingOf (hless : e.passes < e.target)
    (hending : engine.ending field trial (engine.conclude e) = .ok ending) :
    ∃ verdict, engine.collect field (trial.replies e.pending).results = .ok verdict ∧
      ending = engine.endingOf e verdict := by
  cases hpending : e.pending with
  | nil =>
    have hcollect : engine.collect field (trial.replies e.pending).results = .ok ⟨0, []⟩ := by
      rw [hpending]
      rfl
    rw [ending_of_less hless hcollect] at hending
    exact ⟨_, rfl, (Except.ok.inj hending).symm⟩
  | cons check rest =>
    rw [conclude, if_neg (Nat.not_le.2 hless), Engine.ending, Evaluation.isAwaiting] at hending
    dsimp only at hending
    rw [hpending, List.isEmpty_cons, Bool.not_false, if_pos rfl] at hending
    obtain ⟨verdict, hverdict, heq⟩ := map_eq_ok hending
    exact ⟨verdict, hverdict, heq.symm⟩

/-- The messages of an invalid field are those of the validators that fail, the ones
that ask a callback last. -/
theorem complaints_listing (he : engine.evaluate state trial.value trial.others = .ok e)
    (hending : engine.ending field trial e = .ok ending) (hinvalid : ending.valid = false) :
    trial.Complaints engine (trial.listing state.validators) ending.messages ∧
      ending.message = engine.compose ending.messages := by
  rcases evaluate_eq_ok_iff.1 he with ⟨-, rfl⟩ | ⟨-, ran, hrun, rfl⟩
  · cases hending
    cases hinvalid
  obtain ⟨htarget, -, hcompleted⟩ := ran_run _ _ _ _ hrun
  by_cases henough : ran.target ≤ ran.passes
  · rw [ending_of_enough henough] at hending
    cases hending
    cases hinvalid
  rw [Nat.not_le] at henough
  obtain ⟨-, hpending, messages, hmessages, himmediate⟩ := hcompleted (htarget ▸ henough)
  obtain ⟨verdict, hverdict, rfl⟩ := exists_endingOf henough hending
  rw [hpending] at hverdict
  have hdeferred := (collected_of_collect hverdict).messages
  by_cases hsettled : ran.target ≤ ran.passes + verdict.passes
  · rw [endingOf_of_enough hsettled] at hinvalid
    cases hinvalid
  rw [endingOf_of_less (Nat.not_le.1 hsettled), hmessages]
  refine ⟨?_, rfl⟩
  have hlisting : trial.listing state.validators =
      (immediate state.validators.zipIdx).filter (!trial.passes ·) ++
        (deferred state.validators.zipIdx).filter (!trial.passes ·) := by
    simp only [Trial.listing, Trial.failing, immediate, deferred, List.filter_filter, Bool.and_comm]
  rw [hlisting]
  exact List.rel_append himmediate hdeferred

/-- The message of an invalid field tells of the validators that fail.  It does so in
the order of declaration if and only if none that asks a callback is declared before
one that asks none, and ends in this order if and only if the last one asks a callback
or none does. -/
theorem lists_of_invalid (he : engine.evaluate state trial.value trial.others = .ok e)
    (hending : engine.ending field trial e = .ok ending) (hinvalid : ending.valid = false) :
    ending.Lists engine trial state.validators := by
  obtain ⟨hmessages, hmessage⟩ := complaints_listing he hending hinvalid
  have hperm := trial.listing_perm state.validators
  refine ⟨hmessage, hmessages, fun horder => ?_, fun hdistinct => ?_, fun hdistinct => ?_⟩
  · rw [Trial.Tells, ← Trial.listing_eq_failing_iff.2 horder]
    exact ⟨_, hmessages, hmessage⟩
  · rw [← Trial.listing_eq_failing_iff]
    constructor
    · exact fun hsame => (hmessages.eq_of_nodup hsame hdistinct hperm.symm.subset).symm
    · exact fun heq => heq ▸ hmessages
  · rw [← Trial.getLast?_listing_eq_iff]
    cases hlast : (trial.failing state.validators).getLast? with
    | none =>
      rw [List.getLast?_eq_none_iff] at hlast
      rw [hlast, List.perm_nil] at hperm
      simp [hperm]
    | some last =>
      have hmem := hperm.mem_iff.2 (List.mem_of_getLast? hlast)
      rw [hmessages.getLast?_eq_iff hdistinct hmem]
      simp

/-! ## A callback that is declared first -/

/-- A field that asks a callback before its length is looked at. -/
def callbackFirst : FieldState :=
  .fresh "nick" "remote:free|min_len:5"
    ((Rule.compile "remote:free|min_len:5").toOption.getD ⟨[], false⟩) {} {}

/-- A value that is too short and that the callback refuses. -/
def refusedTrial : Trial where
  value := some "ann"
  others _ := none
  outcome _ := ⟨false, some "Already taken."⟩
  delay _ := 20

theorem compiled_callbackFirst : callbackFirst.Compiled := by
  cases hcompile : Rule.compile "remote:free|min_len:5" with
  | error e =>
    have hsome : (Rule.compile "remote:free|min_len:5").toOption.isSome = true := by decide +kernel
    rw [hcompile] at hsome
    cases hsome
  | ok compiled =>
    refine ⟨compiled, hcompile, ?_, ?_⟩ <;> rw [callbackFirst, hcompile] <;> rfl

/-- What comes of the field, with all messages or only the last one. -/
theorem exists_ending_callbackFirst (onlyLast : Bool) :
    ∃ e, { english with onlyLast }.evaluate callbackFirst refusedTrial.value refusedTrial.others =
        .ok e ∧
      { english with onlyLast }.ending "nick" refusedTrial e = .ok
        { valid := false
          message := if onlyLast then "Already taken." else
            "Must be at least 5 characters. Already taken."
          messages := ["Must be at least 5 characters.", "Already taken."] } := by
  have hfound : (({ english with onlyLast }.evaluate callbackFirst refusedTrial.value
      refusedTrial.others).toOption.bind fun e =>
        ({ english with onlyLast }.ending "nick" refusedTrial e).toOption) = some
        { valid := false
          message := if onlyLast then "Already taken." else
            "Must be at least 5 characters. Already taken."
          messages := ["Must be at least 5 characters.", "Already taken."] } := by
    cases onlyLast <;> decide +kernel
  obtain ⟨e, he, hending⟩ := Option.bind_eq_some_iff.1 hfound
  exact ⟨e, eq_ok_of_toOption he, eq_ok_of_toOption hending⟩

/-- The message of the length comes first, although the length is declared last. -/
theorem lists_callbackFirst :
    ∃ e ending, english.evaluate callbackFirst refusedTrial.value refusedTrial.others = .ok e ∧
      english.ending "nick" refusedTrial e = .ok ending ∧ ending.valid = false ∧
      ending.messages.Nodup ∧ ¬ refusedTrial.InOrder callbackFirst.validators ∧
      ending.Lists english refusedTrial callbackFirst.validators := by
  obtain ⟨e, he, hending⟩ := exists_ending_callbackFirst false
  exact ⟨e, _, he, hending, rfl, by decide, by decide +kernel, lists_of_invalid he hending rfl⟩

/-- The messages of invalid fields are in the order of declaration, and if only one is
kept, it is that of the validator that is declared last. -/
def TellsInOrder (engine : Engine) : Prop :=
  ∀ (state : FieldState) (trial : Trial) (field : String) (e : Evaluation) (ending : Ending),
    state.Compiled → engine.evaluate state trial.value trial.others = .ok e →
      engine.ending field trial e = .ok ending → ending.valid = false →
        trial.Tells engine (trial.failing state.validators) ending.message

theorem not_tellsInOrder (onlyLast : Bool) : ¬ { english with onlyLast }.TellsInOrder := by
  intro htells
  obtain ⟨e, he, hending⟩ := exists_ending_callbackFirst onlyLast
  obtain ⟨messages, hcomplaints, hmessage⟩ := htells _ _ _ _ _ compiled_callbackFirst he hending rfl
  have hfailing : (refusedTrial.failing callbackFirst.validators).map
      (refusedTrial.complaint { english with onlyLast }) =
        ["Already taken.", "Must be at least 5 characters."].map .ok := by
    cases onlyLast <;> decide +kernel
  rw [Trial.complaints_iff, hfailing] at hcomplaints
  rw [← List.map_injective_iff.2 (fun _ _ => Except.ok.inj) hcomplaints] at hmessage
  revert hmessage
  cases onlyLast <;> decide +kernel

/-- They are not, neither all of them nor the last one. -/
theorem not_forall_tells_failing :
    ¬ english.TellsInOrder ∧ ¬ { english with onlyLast := true }.TellsInOrder :=
  ⟨not_tellsInOrder false, not_tellsInOrder true⟩

end Engine

end FieldRules
