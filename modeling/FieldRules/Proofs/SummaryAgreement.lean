import FieldRules.Proofs.Reachability

/-!
# The summary tells which fields are invalid

At all times the summary lists the fields that are invalid, each of them once,
with the message, the name and the form that the field has itself.  This does
not depend on the messages: it is true even if none of them can be found.

* `SummaryAgrees`: what it means that the summary and the fields agree.
* `summaryAgrees_of_reachable`: they do in every reachable context.
-/

namespace FieldRules

namespace Context

/-- The summary lists the invalid fields once each, with what they know. -/
structure SummaryAgrees (c : Context) : Prop where
  lists_iff : ∀ field, (∃ entry ∈ c.summary.entries, entry.field = field) ↔
    ∃ state, c.fields.find? field = some state ∧ state.valid = false
  once : (c.summary.entries.map (·.field)).Nodup
  tells : ∀ entry ∈ c.summary.entries, ∃ state, c.fields.find? entry.field = some state ∧
    entry.message = state.message ∧ entry.friendlyName = state.displayName ∧
    entry.form = state.form

variable {c : Context} {field : String}

/-- A field has the entry that its state asks for. -/
theorem Sound.get?_eq_some_iff (hsound : c.Sound) {entry : SummaryEntry} :
    c.summary.get? field = some entry ↔
      ∃ state, c.fields.find? field = some state ∧ state.valid = false ∧
        entry = .ofField state := by
  constructor
  · intro hentry
    cases hfind : c.fields.find? field with
    | none =>
      have hnone : c.summary.get? field = none := (hsound.absent hfind).entry
      rw [hnone] at hentry
      cases hentry
    | some state =>
      have hstate : state.problem? = some entry :=
        (hsound.present hfind).entry.symm.trans hentry
      unfold FieldState.problem? at hstate
      split at hstate
      · cases hstate
      · rename_i hvalid
        cases hstate
        exact ⟨state, rfl, Bool.eq_false_iff.2 hvalid, rfl⟩
  · rintro ⟨state, hfind, hvalid, rfl⟩
    refine (hsound.present hfind).entry.trans ?_
    rw [FieldState.problem?, hvalid]
    rfl

theorem SummaryAgrees.of_sound (hsound : c.Sound) : c.SummaryAgrees where
  lists_iff field := by
    constructor
    · rintro ⟨entry, hmem, hfield⟩
      obtain ⟨state, hfind, hvalid, -⟩ := hsound.get?_eq_some_iff.1
        ((Summary.get?_eq_some_iff hsound.regular.summary).2 ⟨hmem, hfield⟩)
      exact ⟨state, hfind, hvalid⟩
    · rintro ⟨state, hfind, hvalid⟩
      have hentry := hsound.get?_eq_some_iff.2 ⟨state, hfind, hvalid, rfl⟩
      exact ⟨_, (Summary.get?_eq_some_iff hsound.regular.summary).1 hentry⟩
  once := hsound.regular.summary
  tells entry hmem := by
    obtain ⟨state, hfind, -, rfl⟩ := hsound.get?_eq_some_iff.1
      ((Summary.get?_eq_some_iff hsound.regular.summary).2 ⟨hmem, rfl⟩)
    exact ⟨state, hfind, rfl, rfl, rfl⟩

/-- In every reachable context the summary and the fields agree. -/
theorem summaryAgrees_of_reachable (hreach : c.Reachable) : c.SummaryAgrees :=
  .of_sound hreach.sound

/-- A translator that finds no message leaves a field invalid without a message,
and the summary agrees. -/
theorem summaryAgrees_without_messages :
    let c := (start ⟨fun key _ => .error (.missingKey key)⟩ {} []).run
      [.register { name := "name", rules := "required", form := some "form" }]
    c.summary.entries = [⟨"name", some "form", "name", ""⟩] ∧ c.SummaryAgrees :=
  ⟨by decide +kernel, summaryAgrees_of_reachable ((Reachable.start _ _ _).run _)⟩

end Context

end FieldRules
