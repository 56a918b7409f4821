import Mathlib.Data.Multiset.AddSub
import FieldRules.Context.Step
import FieldRules.Proofs.Clock
import FieldRules.Proofs.Forms
import FieldRules.Proofs.Registries

/-!
# A context as one field sees it

What a context knows about one field is its `View`: the state of the field, its
value, form and entry in the summary, whether its evaluation waits, its
generation, its inquiries under way, and what the journal tells about it.

Operations are described by what they do to the view of each field.  Most of
them touch the view of one field only, which has a lemma of its own
(`…_self`), and leave those of the others as they are (`…_of_ne`).

* `Context.store_eq`: storing the state of a field, which always succeeds for a
  field with a name.
* `view_evaluate_self`: the evaluation of a field.
-/

namespace FieldRules

/-! ## Views -/

/-- What a context knows about one field. -/
@[ext]
structure View where
  state : Option FieldState
  value : Option String
  form : Option String
  entry : Option SummaryEntry
  waiting : Bool
  current : Option Nat
  issued : Nat
  inquiries : Multiset Inquiry
  marks : List Mark

namespace Context

/-- The inquiries that have not ended. -/
def underWay (c : Context) : List Inquiry :=
  c.ready ++ c.clock.inquiries

/-- The marks of the journal about a field. -/
def marks (c : Context) (field : String) : List Mark :=
  c.journal.filter (·.field = field)

/-- The context as a field sees it. -/
def view (c : Context) (field : String) : View where
  state := c.fields.find? field
  value := c.values.find? field
  form := c.forms.formOf? field
  entry := c.summary.get? field
  waiting := c.clock.isPending field
  current := c.generations.current? field
  issued := c.generations.issued
  inquiries := (c.underWay.filter (·.field = field) : List Inquiry)
  marks := c.marks field

end Context

/-! ## The summary follows the fields -/

/-- The entry that the summary should have for a field. -/
def FieldState.problem? (state : FieldState) : Option SummaryEntry :=
  if state.valid then none else some (.ofField state)

namespace Summary

/-- The summary in line with the state of a field that has a name. -/
def followed (summary : Summary) (state : FieldState) : Summary :=
  if state.valid then summary.remove state.name else summary.put (.ofField state)

variable (summary : Summary) {state : FieldState} {field : String}

theorem follow_eq (hname : state.name ≠ "") :
    summary.follow state = .ok (summary.followed state) := by
  have hempty : (SummaryEntry.ofField state).field.isEmpty = false := by
    rw [Bool.eq_false_iff, ne_eq, String.isEmpty_iff]
    exact hname
  unfold follow followed add
  split
  · rfl
  · rw [if_neg (by simp [hempty])]

theorem get?_followed_self (state : FieldState) :
    (summary.followed state).get? state.name = state.problem? := by
  unfold followed FieldState.problem?
  split
  · exact get?_remove_self summary state.name
  · exact get?_put_self summary (.ofField state)

theorem get?_followed_of_ne (hne : state.name ≠ field) :
    (summary.followed state).get? field = summary.get? field := by
  unfold followed
  split
  · exact get?_remove_of_ne summary hne
  · exact get?_put_of_ne summary hne

variable {summary}

theorem UniqueFields.followed (hunique : summary.UniqueFields) (state : FieldState) :
    (summary.followed state).UniqueFields := by
  unfold Summary.followed
  split
  · exact hunique.remove state.name
  · exact hunique.put _

end Summary

namespace Context

variable (c : Context) {state : FieldState} {field other : String}

/-! ## Single changes -/

theorem view_put_self (hname : state.name = field) :
    (c.put state).view field = { c.view field with state := some state } := by
  subst hname
  simp only [view, put, underWay, marks, Assoc.find?_put_self]

theorem view_put_of_ne (hne : state.name ≠ other) : (c.put state).view other = c.view other := by
  simp only [view, put, underWay, marks, Assoc.find?_put_of_ne _ _ hne]

theorem view_note_self {mark : Mark} (hmark : mark.field = field) :
    (c.note mark).view field = { c.view field with marks := (c.view field).marks ++ [mark] } := by
  simp [view, note, underWay, marks, hmark]

theorem view_note_of_ne (mark : Mark) (hne : mark.field ≠ other) :
    (c.note mark).view other = c.view other := by
  simp [view, note, underWay, marks, hne]

theorem view_dismiss_self (field : String) :
    (c.dismiss field).view field = { c.view field with entry := none } := by
  simp only [view, dismiss, underWay, marks, Summary.get?_remove_self]

theorem view_dismiss_of_ne (hne : field ≠ other) : (c.dismiss field).view other = c.view other := by
  simp only [view, dismiss, underWay, marks, Summary.get?_remove_of_ne _ hne]

theorem view_cancel_self (field : String) :
    (c.cancel field).view field = { c.view field with waiting := false } := by
  simp only [view, cancel, underWay, marks, Clock.isPending_cancel_self, Clock.inquiries_cancel]

theorem view_cancel_of_ne (hne : field ≠ other) : (c.cancel field).view other = c.view other := by
  simp only [view, cancel, underWay, marks, Clock.isPending_cancel_of_ne _ hne,
    Clock.inquiries_cancel]

theorem view_invalidate_self (field : String) :
    (c.invalidate field).view field =
      { c.view field with
        current := some ((c.view field).issued + 1)
        issued := (c.view field).issued + 1 } := by
  simp only [view, invalidate, Generations.invalidate, underWay, marks,
    Generations.current?_begin_self]
  rfl

theorem view_invalidate_of_ne (hne : field ≠ other) :
    (c.invalidate field).view other =
      { c.view other with issued := (c.view other).issued + 1 } := by
  simp only [view, invalidate, Generations.invalidate, underWay, marks,
    Generations.current?_begin_of_ne _ hne]
  rfl

theorem view_depend (field : String) (targets : List Target) (other : String) :
    (c.depend field targets).view other = c.view other := rfl

theorem view_redepend (state : FieldState) (other : String) :
    (c.redepend state).view other = c.view other := rfl

theorem view_retain (result : Except ConfigError Unit) (other : String) :
    (c.retain result).view other = c.view other := by
  cases result <;> rfl

/-! ## Storing the state of a field -/

/-- The context with the state of a field that has a name, and with the summary
in line. -/
def stored (c : Context) (state : FieldState) : Context :=
  { c.put state with summary := c.summary.followed state }

theorem store_eq (hname : state.name ≠ "") : c.store state = (c.stored state, .ok ()) := by
  unfold store
  rw [Summary.follow_eq c.summary hname]
  rfl

theorem view_stored_self (hname : state.name = field) :
    (c.stored state).view field =
      { c.view field with state := some state, entry := state.problem? } := by
  subst hname
  simp only [view, stored, put, underWay, marks, Assoc.find?_put_self, Summary.get?_followed_self]

theorem view_stored_of_ne (hne : state.name ≠ other) :
    (c.stored state).view other = c.view other := by
  simp only [view, stored, put, underWay, marks, Assoc.find?_put_of_ne _ _ hne,
    Summary.get?_followed_of_ne _ hne]

end Context

/-! ## Evaluations -/

namespace FieldState

/-- The field after an evaluation, or after an error in place of it. -/
def evaluated (state : FieldState) (value : Option String) (generation : Nat) :
    Except ConfigError Evaluation → FieldState
  | .ok e =>
    let state := { state with lastValue := value, generation := none }
    if state.disabled || state.validators.isEmpty then state.markValid
    else if e.isAwaiting then
      { state with valid := false, message := e.message, generation := some generation }.showing
        .awaitingRemote
    else state.record e.valid e.message
  | .error _ => { state with lastValue := value, generation := none }.record false ""

/-- The inquiry that an evaluation of the field makes, if it makes one. -/
def launched (state : FieldState) (value : Option String) (generation : Nat) :
    Except ConfigError Evaluation → List Inquiry
  | .ok e =>
    if (state.disabled || state.validators.isEmpty) || !e.isAwaiting then []
    else [⟨state.name, generation, value, e⟩]
  | .error _ => []

/-- Nothing but the status depends on what is shown. -/
theorem showing_eq (state : FieldState) (status : Status) :
    state.showing status = { state with status := (state.showing status).status } := by
  unfold showing
  split <;> rfl

theorem record_eq (state : FieldState) (valid : Bool) (message : String) :
    state.record valid message =
      { state with valid, message, status := (state.record valid message).status } :=
  showing_eq _ _

theorem showing_name (state : FieldState) (status : Status) :
    (state.showing status).name = state.name := by
  rw [showing_eq]

theorem record_name (state : FieldState) (valid : Bool) (message : String) :
    (state.record valid message).name = state.name := by
  rw [record_eq]

theorem valid_record (state : FieldState) (valid : Bool) (message : String) :
    (state.record valid message).valid = valid := by
  rw [record_eq]

theorem message_record (state : FieldState) (valid : Bool) (message : String) :
    (state.record valid message).message = message := by
  rw [record_eq]

theorem evaluated_name (state : FieldState) (value : Option String) (generation : Nat)
    (result : Except ConfigError Evaluation) :
    (state.evaluated value generation result).name = state.name := by
  cases result with
  | error e => exact record_name _ _ _
  | ok e =>
    unfold evaluated
    dsimp only
    split
    · rfl
    · split
      · exact showing_name _ _
      · exact record_name _ _ _

theorem launched_field (state : FieldState) (value : Option String) (generation : Nat)
    (result : Except ConfigError Evaluation) :
    ∀ inquiry ∈ state.launched value generation result, inquiry.field = state.name := by
  intro inquiry hmem
  cases result with
  | error e => exact absurd hmem List.not_mem_nil
  | ok e =>
    rw [launched] at hmem
    split at hmem
    · exact absurd hmem List.not_mem_nil
    · rw [List.mem_singleton.1 hmem]

end FieldState

/-- The fields that an evaluation has compared with. -/
def Engine.compared : Except ConfigError Evaluation → List Target
  | .ok e => e.dependencies
  | .error _ => []

/-- The view of a field after an evaluation. -/
def View.evaluated (v : View) (state : FieldState) (result : Except ConfigError Evaluation) :
    View :=
  { v with
    state := some (state.evaluated v.value (v.issued + 1) result)
    entry := (state.evaluated v.value (v.issued + 1) result).problem?
    current := some (v.issued + 1)
    issued := v.issued + 1
    inquiries := v.inquiries + (state.launched v.value (v.issued + 1) result : Multiset Inquiry)
    marks := v.marks ++ [.evaluated state.name (v.issued + 1) v.value] }

namespace Context

variable (c : Context) {state : FieldState} {field other : String}

/-- The context with more inquiries that are ready. -/
def launch (c : Context) (inquiries : List Inquiry) : Context :=
  { c with ready := c.ready ++ inquiries }

theorem launch_nil : c.launch [] = c := by
  simp only [launch, List.append_nil]

theorem view_launch_self {inquiries : List Inquiry}
    (hfields : ∀ inquiry ∈ inquiries, inquiry.field = field) :
    (c.launch inquiries).view field =
      { c.view field with
        inquiries := (c.view field).inquiries + (inquiries : Multiset Inquiry) } := by
  have hall : inquiries.filter (fun inquiry => decide (inquiry.field = field)) = inquiries :=
    List.filter_eq_self.2 fun inquiry hmem => decide_eq_true (hfields inquiry hmem)
  ext1
  case inquiries =>
    simp only [view, launch, underWay, List.filter_append, hall, Multiset.coe_add]
    rw [Multiset.coe_eq_coe, List.append_assoc, List.append_assoc]
    exact List.perm_append_comm.append_left _
  all_goals rfl

theorem view_launch_of_ne {inquiries : List Inquiry}
    (hfields : ∀ inquiry ∈ inquiries, inquiry.field = field) (hne : field ≠ other) :
    (c.launch inquiries).view other = c.view other := by
  have hnone : inquiries.filter (fun inquiry => decide (inquiry.field = other)) = [] := by
    rw [List.filter_eq_nil_iff]
    intro inquiry hmem
    rw [decide_eq_true_iff, hfields inquiry hmem]
    exact hne
  simp only [view, launch, underWay, marks, List.filter_append, hnone, List.append_nil]

/-- What comes of an evaluation is stored, whatever it is. -/
theorem applyResult_eq (hname : state.name ≠ "") (value : Option String) (generation : Nat)
    (result : Except ConfigError Evaluation) :
    c.applyResult state value generation result =
      (((c.depend state.name (Engine.compared result)).stored
            (state.evaluated value generation result)).launch
          (state.launched value generation result),
        result.map fun _ => ()) := by
  have hevaluated : (state.evaluated value generation result).name ≠ "" := by
    rwa [FieldState.evaluated_name]
  cases result with
  | error e =>
    simp only [applyResult, applyFailure, FieldState.evaluated] at hevaluated ⊢
    rw [store_eq _ hevaluated]
    simp only [FieldState.launched, launch_nil]
    rfl
  | ok e =>
    simp only [applyResult, applyEvaluation, FieldState.evaluated, FieldState.launched]
      at hevaluated ⊢
    cases hidle : state.disabled || state.validators.isEmpty with
    | true =>
      simp only [Bool.true_or, if_true, launch_nil]
      rfl
    | false =>
      rw [hidle] at hevaluated
      cases hawaiting : e.isAwaiting with
      | true =>
        rw [hawaiting] at hevaluated
        simp only [Bool.false_eq_true, if_false, if_true] at hevaluated ⊢
        rw [store_eq _ hevaluated]
        rfl
      | false =>
        rw [hawaiting] at hevaluated
        simp only [Bool.false_eq_true, if_false, Bool.not_false, Bool.or_true, if_true,
          launch_nil] at hevaluated ⊢
        rw [store_eq _ hevaluated]
        rfl

/-- The context in which the evaluation of a field has begun. -/
def begun (c : Context) (field : String) : Context :=
  (c.invalidate field).note (.evaluated field (c.generations.issued + 1) (c.values.find? field))

/-- What the evaluation of a field with the stored values gives. -/
def evaluation (c : Context) (state : FieldState) : Except ConfigError Evaluation :=
  c.engine.evaluate state (c.values.find? state.name)
    (Assoc.find? (c.values.subset (state.targets.map (·.field))))

theorem evaluate_eq (hfind : c.fields.find? field = some state) (hname : state.name = field)
    (hfield : field ≠ "") :
    c.evaluate field =
      ((((c.begun field).depend field (Engine.compared (c.evaluation state))).stored
            (state.evaluated (c.values.find? field) (c.generations.issued + 1)
              (c.evaluation state))).launch
          (state.launched (c.values.find? field) (c.generations.issued + 1)
            (c.evaluation state)),
        (c.evaluation state).map fun _ => ()) := by
  subst hname
  unfold evaluate
  dsimp only
  rw [hfind]
  exact applyResult_eq _ hfield _ _ _

theorem evaluate_of_unregistered (hfind : c.fields.find? field = none) :
    c.evaluate field =
      ({ c with generations := (c.generations.begin field).1.forget field }, .ok ()) := by
  unfold evaluate
  dsimp only
  rw [hfind]

/-- The evaluation of a field, as the field sees it. -/
theorem view_evaluate_self (hfind : c.fields.find? field = some state) (hname : state.name = field)
    (hfield : field ≠ "") :
    (c.evaluate field).1.view field = (c.view field).evaluated state (c.evaluation state) := by
  rw [evaluate_eq c hfind hname hfield]
  subst hname
  have hname := state.evaluated_name (c.values.find? state.name) (c.generations.issued + 1)
    (c.evaluation state)
  rw [view_launch_self _ (state.launched_field _ _ _), view_stored_self _ hname, view_depend, begun,
    view_note_self _ (by rfl), view_invalidate_self]
  rfl

theorem view_evaluate_of_ne (hfind : c.fields.find? field = some state) (hname : state.name = field)
    (hfield : field ≠ "") (hne : field ≠ other) :
    (c.evaluate field).1.view other =
      { c.view other with issued := (c.view other).issued + 1 } := by
  rw [evaluate_eq c hfind hname hfield]
  subst hname
  rw [view_launch_of_ne _ (state.launched_field _ _ _) hne,
    view_stored_of_ne _ (by rwa [FieldState.evaluated_name]), view_depend, begun,
    view_note_of_ne _ (.evaluated state.name _ _) hne, view_invalidate_of_ne _ hne]

theorem view_evaluate_of_unregistered (hfind : c.fields.find? field = none) :
    (c.evaluate field).1.view field =
      { c.view field with current := none, issued := (c.view field).issued + 1 } := by
  rw [evaluate_of_unregistered c hfind]
  simp only [view, underWay, marks, Generations.current?_forget_self]
  rfl

theorem view_evaluate_of_unregistered_of_ne (hfind : c.fields.find? field = none)
    (hne : field ≠ other) :
    (c.evaluate field).1.view other =
      { c.view other with issued := (c.view other).issued + 1 } := by
  rw [evaluate_of_unregistered c hfind]
  simp only [view, underWay, marks, Generations.current?_forget_of_ne _ hne,
    Generations.current?_begin_of_ne _ hne]
  rfl

end Context

end FieldRules
