import Mathlib.Data.Multiset.UnionInter
import FieldRules.Proofs.Reachability

/-!
# Late replies

Any number of inquiries of one field may be under way, and they may end in any
order.  An inquiry has an effect if and only if nothing has superseded the
evaluation that made it, and then it has its effect once.  All replies are timers
that run out, also those without delay.

* `Mark.since`: what the journal tells after a mark.
* `View.Counted`: generations and marks are numbered in order, and the
  inquiries under way have different generations.
* `View.Tracked`: the generation of an inquiry is the current one as long as
  nothing supersedes it.
* `late_reply`: what the end of an inquiry does to the context.
-/

namespace FieldRules

/-! ## Marks and inquiries -/

namespace Mark

/-- The generation that a mark is about. -/
def generation? : Mark → Option Nat
  | evaluated _ generation _ | concluded _ generation => some generation
  | _ => none

/-- The marks after the first occurrence of a mark. -/
def since (mark : Mark) (marks : List Mark) : List Mark :=
  (marks.dropWhile (· ≠ mark)).tail

theorem since_append_of_mem {mark : Mark} {marks : List Mark} (hmem : mark ∈ marks)
    (others : List Mark) : mark.since (marks ++ others) = mark.since marks ++ others := by
  induction marks with
  | nil => exact absurd hmem List.not_mem_nil
  | cons head rest ih =>
    by_cases hhead : head = mark
    · simp [since, hhead]
    · have hrest := ih ((List.mem_cons.1 hmem).resolve_left (Ne.symm hhead))
      simpa [since, hhead] using hrest

theorem since_append_self {mark : Mark} {marks : List Mark} (hmem : mark ∉ marks) :
    mark.since (marks ++ [mark]) = [] := by
  induction marks with
  | nil => simp [since]
  | cons head rest ih =>
    rw [List.mem_cons, not_or] at hmem
    simpa [since, Ne.symm hmem.1] using ih hmem.2

end Mark

@[simp] theorem Mark.generation?_evaluated (field : String) (generation : Nat)
    (value : Option String) :
    (Mark.evaluated field generation value).generation? = some generation := rfl

@[simp] theorem Mark.generation?_concluded (field : String) (generation : Nat) :
    (Mark.concluded field generation).generation? = some generation := rfl

/-- The mark of the evaluation that has made an inquiry. -/
def Inquiry.mark (inquiry : Inquiry) : Mark :=
  .evaluated inquiry.field inquiry.generation inquiry.value

/-- The mark that an inquiry leaves when it has its effect. -/
def Inquiry.conclusion (inquiry : Inquiry) : Mark :=
  .concluded inquiry.field inquiry.generation

/-! ## Generations are numbered in order -/

namespace View

variable {engine : Engine} {field : String} {v w : View} {state : FieldState}

/-- No generation is given out twice, and the inquiries under way belong to
different generations, none of which has been concluded. -/
structure Counted (field : String) (v : View) : Prop where
  current_le : ∀ generation, v.current = some generation → generation ≤ v.issued
  mark_le : ∀ mark ∈ v.marks, ∀ generation, mark.generation? = some generation →
    generation ≤ v.issued
  inquiry_field : ∀ inquiry ∈ v.inquiries, inquiry.field = field
  inquiry_nodup : (v.inquiries.map (·.generation)).Nodup
  made : ∀ inquiry ∈ v.inquiries, v.marks.count inquiry.mark = 1
  notConcluded : ∀ inquiry ∈ v.inquiries, inquiry.conclusion ∉ v.marks
  once : ∀ generation, v.marks.count (.concluded field generation) ≤ 1

/-- The generation of an inquiry is current until its evaluation is superseded. -/
structure Tracked (field : String) (v : View) : Prop where
  counted : v.Counted field
  current_iff : ∀ inquiry ∈ v.inquiries, v.current = some inquiry.generation ↔
    ∀ mark ∈ inquiry.mark.since v.marks, mark.supersedes = false

theorem Counted.inquiry_mem (hcounted : v.Counted field) {inquiry : Inquiry}
    (hmem : inquiry ∈ v.inquiries) : inquiry.mark ∈ v.marks :=
  List.count_pos_iff.1 (by rw [hcounted.made inquiry hmem]; exact Nat.one_pos)

theorem Counted.inquiry_le (hcounted : v.Counted field) {inquiry : Inquiry}
    (hmem : inquiry ∈ v.inquiries) : inquiry.generation ≤ v.issued :=
  hcounted.mark_le _ (hcounted.inquiry_mem hmem) _ rfl

/-- Marks without a generation change none of the numbers. -/
theorem Counted.append (hcounted : v.Counted field) (marks : List Mark)
    (hplain : ∀ mark ∈ marks, mark.generation? = none) (hmarks : w.marks = v.marks ++ marks)
    (hinquiries : w.inquiries = v.inquiries) (hissued : v.issued ≤ w.issued)
    (hcurrent : ∀ generation, w.current = some generation → generation ≤ w.issued) :
    w.Counted field := by
  have hnot : ∀ mark : Mark, mark.generation? ≠ none → mark ∉ marks :=
    fun mark hmark hmem => hmark (hplain mark hmem)
  refine ⟨hcurrent, ?_, ?_, ?_, ?_, ?_, ?_⟩
  · intro mark hmem generation hgeneration
    rw [hmarks, List.mem_append] at hmem
    rcases hmem with hmem | hmem
    · exact (hcounted.mark_le mark hmem generation hgeneration).trans hissued
    · rw [hplain mark hmem] at hgeneration
      cases hgeneration
  · rw [hinquiries]
    exact hcounted.inquiry_field
  · rw [hinquiries]
    exact hcounted.inquiry_nodup
  · rw [hinquiries]
    intro inquiry hmem
    rw [hmarks, List.count_append, hcounted.made inquiry hmem,
      List.count_eq_zero_of_not_mem (hnot _ (by simp [Inquiry.mark]))]
  · rw [hinquiries]
    intro inquiry hmem
    rw [hmarks, List.mem_append, not_or]
    exact ⟨hcounted.notConcluded inquiry hmem, hnot _ (by simp [Inquiry.conclusion])⟩
  · intro generation
    rw [hmarks, List.count_append, List.count_eq_zero_of_not_mem (hnot _ (by simp))]
    exact hcounted.once generation

theorem Counted.prepares (hcounted : v.Counted field) (hprepares : Prepares field v w) :
    w.Counted field := by
  cases hprepares with
  | ruled hstate rules hcompile hrules =>
    exact hcounted.append [.ruled field] (by simp [Mark.generation?]) rfl rfl
      (le_refl _) hcounted.current_le
  | changed hstate hactive value =>
    exact hcounted.append [.changed field value] (by simp [Mark.generation?]) rfl rfl
      (le_refl _) hcounted.current_le
  | renewed hrenewed =>
    obtain ⟨hstate, touched, emptied, hcurrent, hissued⟩ := hrenewed
    refine hcounted.append [.reset field] (by simp [Mark.generation?]) rfl rfl
      (hcurrent.le.trans hissued) ?_
    rintro generation ⟨⟩
    exact hissued
  | _ => exact { hcounted with }

/-- A generation that has not been given out stands in no mark. -/
theorem Counted.notMem_of_lt (hcounted : v.Counted field) {mark : Mark} {generation : Nat}
    (hgeneration : mark.generation? = some generation) (hlt : v.issued < generation) :
    mark ∉ v.marks :=
  fun hmem => absurd (hcounted.mark_le mark hmem generation hgeneration) (Nat.not_le.2 hlt)

theorem launched_eq {state : FieldState} {value : Option String} {generation : Nat}
    {result : Except ConfigError Evaluation} {inquiry : Inquiry}
    (hmem : inquiry ∈ state.launched value generation result) :
    inquiry.field = state.name ∧ inquiry.generation = generation ∧ inquiry.value = value := by
  cases result with
  | error e => exact absurd hmem List.not_mem_nil
  | ok e =>
    rw [FieldState.launched] at hmem
    split at hmem
    · exact absurd hmem List.not_mem_nil
    · rw [List.mem_singleton.1 hmem]
      exact ⟨rfl, rfl, rfl⟩

theorem launched_nodup (state : FieldState) (value : Option String) (generation : Nat)
    (result : Except ConfigError Evaluation) :
    ((state.launched value generation result).map (·.generation)).Nodup := by
  cases result with
  | error e => exact List.nodup_nil
  | ok e =>
    rw [FieldState.launched]
    split
    · exact List.nodup_nil
    · exact List.nodup_singleton _

/-- An evaluation takes the next generation, which is new. -/
theorem Counted.evaluated (hcounted : w.Counted field) (hname : state.name = field)
    (result : Except ConfigError Evaluation) : (w.evaluated state result).Counted field := by
  have hnew : ∀ mark : Mark, mark.generation? = some (w.issued + 1) → mark ∉ w.marks :=
    fun mark hmark => hcounted.notMem_of_lt hmark (Nat.lt_succ_self _)
  have hlaunched := fun inquiry (hmem : inquiry ∈
    (state.launched w.value (w.issued + 1) result : Multiset Inquiry)) =>
    launched_eq (Multiset.mem_coe.1 hmem)
  refine ⟨?_, ?_, ?_, ?_, ?_, ?_, ?_⟩
  · rintro generation ⟨⟩
    exact le_refl _
  · intro mark hmem generation hgeneration
    rcases List.mem_append.1 hmem with hmem | hmem
    · exact (hcounted.mark_le mark hmem generation hgeneration).trans (Nat.le_succ _)
    · rw [List.mem_singleton.1 hmem] at hgeneration
      cases hgeneration
      exact le_refl _
  · intro inquiry hmem
    rcases Multiset.mem_add.1 hmem with hmem | hmem
    · exact hcounted.inquiry_field inquiry hmem
    · exact (hlaunched inquiry hmem).1.trans hname
  · simp only [View.evaluated, Multiset.map_add, Multiset.nodup_add, Multiset.map_coe,
      Multiset.coe_nodup]
    refine ⟨hcounted.inquiry_nodup, launched_nodup _ _ _ _, ?_⟩
    rw [Multiset.disjoint_left]
    intro generation hold hfresh
    obtain ⟨inquiry, hmem, rfl⟩ := Multiset.mem_map.1 hold
    obtain ⟨other, hother, hgeneration⟩ := List.mem_map.1 (Multiset.mem_coe.1 hfresh)
    have hle := hcounted.inquiry_le hmem
    rw [← hgeneration, (launched_eq hother).2.1] at hle
    exact absurd hle (Nat.not_succ_le_self _)
  · intro inquiry hmem
    simp only [View.evaluated, List.count_append]
    rcases Multiset.mem_add.1 hmem with hmem | hmem
    · have hne : inquiry.mark ≠ .evaluated state.name (w.issued + 1) w.value := by
        intro heq
        have hle := hcounted.inquiry_le hmem
        have hgeneration := congrArg Mark.generation? heq
        simp only [Inquiry.mark, Mark.generation?_evaluated, Option.some.injEq] at hgeneration
        omega
      rw [hcounted.made inquiry hmem, List.count_singleton, if_neg (by simpa using Ne.symm hne)]
    · obtain ⟨hfield, hgeneration, hvalue⟩ := hlaunched inquiry hmem
      rw [Inquiry.mark, hfield, hgeneration, hvalue,
        List.count_eq_zero_of_not_mem (hnew _ rfl), List.count_singleton_self]
  · intro inquiry hmem
    simp only [View.evaluated, List.mem_append, not_or]
    refine ⟨?_, by simp [Inquiry.conclusion]⟩
    rcases Multiset.mem_add.1 hmem with hmem | hmem
    · exact hcounted.notConcluded inquiry hmem
    · refine hnew _ ?_
      rw [Inquiry.conclusion, (hlaunched inquiry hmem).2.1]
      rfl
  · intro generation
    simp only [View.evaluated, List.count_append]
    rw [List.count_singleton, if_neg (by simp)]
    exact hcounted.once generation

/-- The other inquiries belong to other generations. -/
theorem Counted.of_mem_erase (hcounted : v.Counted field) {inquiry other : Inquiry}
    (hmem : inquiry ∈ v.inquiries) (hother : other ∈ v.inquiries.erase inquiry) :
    other ∈ v.inquiries ∧ other.generation ≠ inquiry.generation := by
  have hnodup : v.inquiries.Nodup := hcounted.inquiry_nodup.of_map _
  rw [hnodup.mem_erase_iff] at hother
  refine ⟨hother.2, fun heq => hother.1 ?_⟩
  exact Multiset.inj_on_of_nodup_map hcounted.inquiry_nodup other hother.2 inquiry hmem heq

/-- An inquiry that has had its effect is gone, and the journal tells so. -/
theorem Counted.concluded (hcounted : v.Counted field) {inquiry : Inquiry}
    (hmem : inquiry ∈ v.inquiries) (engine : Engine) (state : FieldState)
    (verdict : Except ConfigError Verdict) :
    (v.concluded engine state inquiry verdict).Counted field := by
  have hrest := fun (other : Inquiry) (hother : other ∈ v.inquiries.erase inquiry) =>
    hcounted.of_mem_erase hmem hother
  refine ⟨hcounted.current_le, ?_, ?_, ?_, ?_, ?_, ?_⟩
  · intro mark hmark generation hgeneration
    rcases List.mem_append.1 hmark with hmark | hmark
    · exact hcounted.mark_le mark hmark generation hgeneration
    · rw [List.mem_singleton.1 hmark] at hgeneration
      cases hgeneration
      exact hcounted.inquiry_le hmem
  · exact fun other hother => hcounted.inquiry_field other (hrest other hother).1
  · exact Multiset.nodup_of_le (Multiset.map_le_map (Multiset.erase_le _ _))
      hcounted.inquiry_nodup
  · intro other hother
    simp only [View.concluded, List.count_append]
    rw [hcounted.made other (hrest other hother).1, List.count_singleton,
      if_neg (by simp [Inquiry.mark])]
  · intro other hother
    simp only [View.concluded, List.mem_append, not_or]
    refine ⟨hcounted.notConcluded other (hrest other hother).1, ?_⟩
    simpa [Inquiry.conclusion] using fun _ => (hrest other hother).2
  · intro generation
    simp only [View.concluded, List.count_append]
    by_cases hgeneration : generation = inquiry.generation
    · have hnot := hcounted.notConcluded inquiry hmem
      rw [Inquiry.conclusion, hcounted.inquiry_field inquiry hmem, ← hgeneration] at hnot
      rw [List.count_eq_zero_of_not_mem hnot, Nat.zero_add]
      exact List.count_le_length
    · rw [List.count_singleton, if_neg (by simp [Ne.symm hgeneration])]
      exact hcounted.once generation

theorem Counted.erase (hcounted : v.Counted field) (inquiry : Inquiry) :
    ({ v with inquiries := v.inquiries.erase inquiry } : View).Counted field where
  current_le := hcounted.current_le
  mark_le := hcounted.mark_le
  inquiry_field other hother := hcounted.inquiry_field other (Multiset.mem_of_mem_erase hother)
  inquiry_nodup := Multiset.nodup_of_le (Multiset.map_le_map (Multiset.erase_le _ _))
    hcounted.inquiry_nodup
  made other hother := hcounted.made other (Multiset.mem_of_mem_erase hother)
  notConcluded other hother := hcounted.notConcluded other (Multiset.mem_of_mem_erase hother)
  once := hcounted.once

/-! ## What supersedes an inquiry -/

/-- What happens without superseding anything leaves the current generation. -/
theorem Tracked.keep (htracked : v.Tracked field) (hcounted : w.Counted field)
    (marks : List Mark) (hmarks : w.marks = v.marks ++ marks)
    (hsupersedes : ∀ mark ∈ marks, mark.supersedes = false)
    (hinquiries : ∀ inquiry ∈ w.inquiries, inquiry ∈ v.inquiries)
    (hcurrent : w.current = v.current) : w.Tracked field where
  counted := hcounted
  current_iff inquiry hmem := by
    have hold := hinquiries inquiry hmem
    rw [hcurrent, htracked.current_iff inquiry hold, hmarks,
      Mark.since_append_of_mem (htracked.counted.inquiry_mem hold)]
    simp only [List.mem_append, or_imp, forall_and]
    exact (and_iff_left hsupersedes).symm

theorem Tracked.changed (htracked : v.Tracked field) (state : FieldState) (value : Option String)
    (waiting : Bool) : (v.changed field state value waiting).Tracked field := by
  have hcounted := htracked.counted.append (w := v.changed field state value waiting)
    [.changed field value] (by simp [Mark.generation?]) rfl rfl (le_refl _)
    htracked.counted.current_le
  exact htracked.keep hcounted _ rfl (by simp [Mark.supersedes]) (fun _ => id) rfl

/-- What supersedes the inquiries of a field takes their generation away. -/
theorem Counted.supersede (hcounted : v.Counted field) (hcounted' : w.Counted field)
    (mark : Mark) (hmarks : w.marks = v.marks ++ [mark]) (hsupersedes : mark.supersedes = true)
    (hinquiries : w.inquiries = v.inquiries)
    (hcurrent : ∀ generation, w.current = some generation → v.issued < generation) :
    w.Tracked field where
  counted := hcounted'
  current_iff inquiry hmem := by
    rw [hinquiries] at hmem
    refine iff_of_false (fun hgeneration => ?_) (fun hall => ?_)
    · exact absurd (hcounted.inquiry_le hmem) (Nat.not_le.2 (hcurrent _ hgeneration))
    · rw [hmarks, Mark.since_append_of_mem (hcounted.inquiry_mem hmem)] at hall
      rw [hall mark (by simp)] at hsupersedes
      cases hsupersedes

theorem Counted.tracked_suspended (hcounted : v.Counted field) (state : FieldState) {mark : Mark}
    (hplain : mark.generation? = none) (hsupersedes : mark.supersedes = true) :
    (v.suspended state mark).Tracked field := by
  refine hcounted.supersede ?_ mark rfl hsupersedes rfl ?_
  · refine hcounted.append [mark] (by simpa using hplain) rfl rfl (Nat.le_succ _) ?_
    rintro generation ⟨⟩
    exact le_refl _
  · rintro generation ⟨⟩
    exact Nat.lt_succ_self _

/-- An evaluation supersedes all that was under way before it. -/
theorem Counted.tracked_evaluated (hcounted : w.Counted field) (hname : state.name = field)
    (result : Except ConfigError Evaluation) : (w.evaluated state result).Tracked field where
  counted := hcounted.evaluated hname result
  current_iff inquiry hmem := by
    simp only [View.evaluated, Option.some.injEq] at hmem ⊢
    rcases Multiset.mem_add.1 hmem with hmem | hmem
    · refine iff_of_false (fun hgeneration => ?_) (fun hall => ?_)
      · have hle := hcounted.inquiry_le hmem
        omega
      · rw [Mark.since_append_of_mem (hcounted.inquiry_mem hmem)] at hall
        have hsupersedes := hall (.evaluated state.name (w.issued + 1) w.value) (by simp)
        cases hsupersedes
    · obtain ⟨hfield, hgeneration, hvalue⟩ := launched_eq (Multiset.mem_coe.1 hmem)
      have hmark : inquiry.mark = .evaluated state.name (w.issued + 1) w.value := by
        rw [Inquiry.mark, hfield, hgeneration, hvalue]
      rw [hmark, Mark.since_append_self (hcounted.notMem_of_lt rfl (Nat.lt_succ_self _))]
      exact iff_of_true hgeneration.symm (fun _ hnot => absurd hnot List.not_mem_nil)

theorem Tracked.empty (field : String) : View.empty.Tracked field where
  counted :=
    { current_le := by simp [View.empty]
      mark_le := by simp [View.empty]
      inquiry_field := by simp [View.empty]
      inquiry_nodup := by simp [View.empty]
      made := by simp [View.empty]
      notConcluded := by simp [View.empty]
      once := by simp [View.empty] }
  current_iff := by simp [View.empty]

/-- Every move leaves the generations of the inquiries in order. -/
theorem Tracked.move (htracked : v.Tracked field) (hintact : v.Intact field)
    (hmove : Move engine field v w) : w.Tracked field := by
  have hcounted := htracked.counted
  cases hmove with
  | @elsewhere issued hissued =>
    have hcounted' := hcounted.append (w := { v with issued }) [] (by simp)
      (List.append_nil _).symm rfl hissued
      (fun generation h => (hcounted.current_le generation h).trans hissued)
    exact htracked.keep hcounted' [] (List.append_nil _).symm (by simp)
      (fun _ => id) rfl
  | evaluated hprepares hstate others =>
    -- the evaluation supersedes everything, whatever has prepared it
    exact (hcounted.prepares hprepares).tracked_evaluated
      ((hintact.prepares hprepares).present _ hstate).name _
  | disabled hstate => exact hcounted.tracked_suspended _ rfl rfl
  | unruled hstate rules hcompile hrules => exact hcounted.tracked_suspended _ rfl rfl
  | removed hstate =>
    refine hcounted.supersede ?_ (.removed field) rfl rfl rfl nofun
    exact hcounted.append [.removed field] (by simp [Mark.generation?]) rfl rfl
      (le_refl _) nofun
  | delayed hstate hactive value => exact htracked.changed _ value true
  | unseen hstate hidle value => exact htracked.changed _ value v.waiting
  | revealed hstate hinvalid hwaiting =>
    exact ⟨{ hcounted with }, htracked.current_iff⟩
  | concluded hstate hmem hcurrent verdict =>
    exact htracked.keep (hcounted.concluded hmem _ _ verdict) _ rfl (by simp [Mark.supersedes])
      (fun _ => Multiset.mem_of_mem_erase) rfl
  | dropped hmem hstale =>
    exact htracked.keep (hcounted.erase _) [] (List.append_nil _).symm (by simp)
      (fun _ => Multiset.mem_of_mem_erase) rfl
  | abandoned hrenewed hfails =>
    have hcounted' := hcounted.prepares (.renewed hrenewed)
    obtain ⟨hstate, touched, emptied, hcurrent, hissued⟩ := hrenewed
    refine hcounted.supersede hcounted' (.reset field) rfl rfl rfl ?_
    rintro generation ⟨⟩
    exact hcurrent

end View

theorem Move.mem_marks {engine : Engine} {field : String} {v w : View}
    (hmove : Move engine field v w) {mark : Mark} (hmem : mark ∈ v.marks) : mark ∈ w.marks := by
  have hprepared : ∀ {w : View}, Prepares field v w → mark ∈ w.marks := by
    intro w hprepares
    cases hprepares with
    | renewed hrenewed =>
      obtain ⟨hstate, touched, emptied, hcurrent, hissued⟩ := hrenewed
      exact List.mem_append_left _ hmem
    | ruled => exact List.mem_append_left _ hmem
    | changed => exact List.mem_append_left _ hmem
    | _ => exact hmem
  cases hmove with
  | evaluated hprepares => exact List.mem_append_left _ (hprepared hprepares)
  | abandoned hrenewed => exact hprepared (.renewed hrenewed)
  | elsewhere | revealed | dropped => exact hmem
  | _ => exact List.mem_append_left _ hmem

/-! ## Late replies -/

namespace Context

variable {c : Context} {before after : List (Timer Event)} {timer : Timer Event}
  {inquiry : Inquiry} {results : Results}

/-- What has happened to the field of an inquiry since the evaluation that made
the inquiry. -/
def since (c : Context) (inquiry : Inquiry) : List Mark :=
  inquiry.mark.since (c.marks inquiry.field)

theorem Reachable.tracked (hreach : c.Reachable) (field : String) :
    (c.view field).Tracked field :=
  hreach.view_induction field (motive := View.Tracked field)
    (fun _ _ hintact htracked hmove => htracked.move hintact hmove) (.empty field)

/-- No mark is ever taken out of the journal. -/
theorem mem_marks_of_leads {c' : Context} (hsound : c.Sound) (hleads : c.Leads c') {mark : Mark}
    {field : String} (hmem : mark ∈ c.marks field) : mark ∈ c'.marks field :=
  hleads.view_induction (motive := fun v => mark ∈ v.marks) hsound
    (fun _ _ _ hmem hmove => hmove.mem_marks hmem) hmem

/-- The inquiry has had its effect: its field stores what the replies settle,
or, if they end in an error, is invalid with the message of its evaluation while
the error is kept.  Nothing has become of the other fields. -/
structure Applied (c : Context) (inquiry : Inquiry) (results : Results) (c' : Context) : Prop where
  stores : ∃ state, c'.fields.find? inquiry.field = some state ∧
    match c.engine.collect inquiry.field results with
    | .ok verdict =>
      state.valid = (c.engine.settle inquiry.evaluation verdict).valid ∧
      state.message = (c.engine.settle inquiry.evaluation verdict).message ∧
      c'.errors = c.errors
    | .error e =>
      state.valid = false ∧ state.message = inquiry.evaluation.message ∧
      c'.errors = c.errors ++ [e]
  others : ∀ field, field ≠ inquiry.field → c'.view field = c.view field

/-- An inquiry whose generation is current has its effect. -/
theorem Applied.of_current {state : FieldState}
    (hfind : c.fields.find? inquiry.field = some state) (hname : state.name = inquiry.field)
    (hfield : inquiry.field ≠ "")
    (hcurrent : c.generations.current? inquiry.field = some inquiry.generation)
    (results : Results) : Applied c inquiry results (c.conclude inquiry results) := by
  rw [conclude_eq hfind (by rwa [hname]) hcurrent]
  have hconcluded : ∀ verdict, (state.concluded c.engine inquiry.evaluation verdict).name =
      inquiry.field :=
    fun verdict => (FieldState.name_of_setup (state.setup_concluded _ _ verdict)).trans hname
  constructor
  · refine ⟨state.concluded c.engine inquiry.evaluation (c.engine.collect inquiry.field results),
      ?_, ?_⟩
    · have hview := congrArg View.state (view_stored_self
        (c.note inquiry.conclusion) (hconcluded (c.engine.collect inquiry.field results)))
      rw [← view_retain _ ((c.engine.collect inquiry.field results).map fun _ => ())] at hview
      exact hview
    · cases c.engine.collect inquiry.field results with
      | ok verdict => exact ⟨FieldState.valid_record _ _ _, FieldState.message_record _ _ _, rfl⟩
      | error e => exact ⟨FieldState.valid_record _ _ _, FieldState.message_record _ _ _, rfl⟩
  · intro field hfield
    rw [view_retain, view_stored_of_ne _ (by rw [hconcluded]; exact Ne.symm hfield),
      view_note_of_ne _ (.concluded inquiry.field inquiry.generation) (Ne.symm hfield)]

theorem count_journal (c : Context) (mark : Mark) :
    c.journal.count mark = (c.marks mark.field).count mark :=
  (List.count_filter (by simp)).symm

/-- An inquiry that has its effect leaves a mark. -/
theorem conclusion_mem_marks {state : FieldState}
    (hfind : c.fields.find? inquiry.field = some state) (hname : state.name ≠ "")
    (hcurrent : c.generations.current? inquiry.field = some inquiry.generation)
    (results : Results) :
    inquiry.conclusion ∈ (c.conclude inquiry results).marks inquiry.field := by
  have hmarked : inquiry.conclusion ∈ (c.note inquiry.conclusion).marks inquiry.field := by
    simp [marks, note, Inquiry.conclusion, Mark.field]
  rw [conclude_eq hfind hname hcurrent]
  change _ ∈ (Context.view (Context.retain _ _) inquiry.field).marks
  rw [view_retain]
  exact hmarked

/-- An inquiry that has had its effect never has it again. -/
theorem Reachable.count_conclusion (hreach : c.Reachable)
    (hmem : inquiry.conclusion ∈ c.marks inquiry.field) {c' : Context} (hleads : c.Leads c') :
    c'.journal.count inquiry.conclusion = 1 := by
  rw [count_journal]
  refine le_antisymm (((hreach.leads hleads).tracked inquiry.field).counted.once _) ?_
  exact List.count_pos_iff.2 (mem_marks_of_leads hreach.sound hleads hmem)

/-- An inquiry ends.  If its evaluation has been superseded, this changes
nothing.  Otherwise it has its effect, and never has it again. -/
theorem late_reply (hreach : c.Reachable) (htimers : c.clock.timers = before ++ timer :: after)
    (hevent : timer.event = .reply inquiry results) :
    let taken := c.atInstant c.clock.now (before ++ after)
    c.journal.count inquiry.mark = 1 ∧
    ((∃ mark ∈ c.since inquiry, mark.supersedes = true) → taken.fire timer.event = taken) ∧
    ((∀ mark ∈ c.since inquiry, mark.supersedes = false) →
      Applied taken inquiry results (taken.fire timer.event) ∧ inquiry.conclusion ∉ c.journal ∧
      ∀ c', Leads (taken.fire timer.event) c' → c'.journal.count inquiry.conclusion = 1) := by
  intro taken
  have hsound := hreach.sound
  have htracked := hreach.tracked inquiry.field
  obtain ⟨hmem, -⟩ := view_take_reply_self hsound htimers hevent c.clock.now
  have hcurrent := htracked.current_iff inquiry hmem
  refine ⟨?_, ?_, ?_⟩
  · rw [count_journal]
    exact htracked.counted.made inquiry hmem
  · rintro ⟨mark, hmark, hsupersedes⟩
    rw [hevent]
    refine conclude_of_stale (c := taken) (fun hgeneration => ?_) results
    rw [hcurrent.1 hgeneration mark hmark] at hsupersedes
    cases hsupersedes
  · intro hkept
    have hgeneration := hcurrent.2 hkept
    obtain ⟨state, hfind⟩ := hsound.exists_state_of_current hgeneration
    have hpresent := hsound.present hfind
    refine ⟨?_, ?_, ?_⟩
    · rw [hevent]
      exact .of_current (c := taken) hfind hpresent.name hpresent.named hgeneration results
    · intro hconclusion
      exact htracked.counted.notConcluded inquiry hmem
        (List.mem_filter.2 ⟨hconclusion, by simp [Inquiry.conclusion, Mark.field]⟩)
    · intro c' hleads
      refine (hreach.leads (.single (.fire htimers))).count_conclusion ?_ hleads
      rw [hevent]
      exact conclusion_mem_marks (c := taken) hfind (by rw [hpresent.name]; exact hpresent.named)
        hgeneration results

deriving instance DecidableEq for Event

/-- Two values are asked about in a row, and both replies are still out: the
first one comes too late, the second one counts. -/
theorem late_reply_of_two_values :
    let c := (start Message.english.translator { debounce := 0 }
      [("taken", ⟨fun _ => ⟨10, .ok ⟨false, some "in use"⟩⟩⟩)]).run
      [.register { name := "nick", rules := "remote:taken" }, .setValue "nick" "ann",
        .setValue "nick" "bob"]
    ∃ stale current inquiry results, c.clock.timers = [stale, current] ∧
      current.event = .reply inquiry results ∧
      (c.atInstant 0 [current]).fire stale.event = c.atInstant 0 [current] ∧
      Applied (c.atInstant 0 [stale]) inquiry results
        ((c.atInstant 0 [stale]).fire current.event) := by
  intro c
  have hreach : c.Reachable := (Reachable.start _ _ _).run _
  let check : PendingCheck := ⟨0, .remote, "taken", "INVALID_REMOTE", [], none⟩
  let evaluation : Evaluation := { target := 1, pending := [check] }
  let results : Results := [(check, .ok ⟨false, some "in use"⟩)]
  let inquiry (generation : Nat) (value : String) : Inquiry :=
    ⟨"nick", generation, some value, evaluation⟩
  let stale : Timer Event := ⟨10, none, .reply (inquiry 2 "ann") results⟩
  let current : Timer Event := ⟨10, none, .reply (inquiry 3 "bob") results⟩
  have htimers : c.clock.timers = [stale, current] := by decide +kernel
  have hnow : c.clock.now = 0 := by decide +kernel
  have hstale := late_reply hreach (show _ = [] ++ stale :: [current] from htimers) rfl
  have hcurrent := late_reply hreach (show _ = [stale] ++ current :: [] from htimers) rfl
  rw [hnow] at hstale hcurrent
  refine ⟨stale, current, inquiry 3 "bob", results, htimers, rfl, ?_, ?_⟩
  · exact hstale.2.1 (by decide +kernel)
  · exact (hcurrent.2.2 (by decide +kernel)).1

end Context

end FieldRules
