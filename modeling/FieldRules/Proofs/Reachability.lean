import FieldRules.Proofs.FormResets

/-!
# What is true of a field at all times

Whatever happens to a sound context makes it evolve, so all reachable contexts
are sound, and their views come from the empty view by moves.

* `conclude_eq`: the end of an inquiry that is still wanted.
* `Next.evolves`, `Leads.evolves`: what happens is moves of the views.
* `Reachable.sound`: all reachable contexts are sound.
* `Reachable.view_induction`: what is true of the empty view and kept by every
  move is true of all fields at all times.
-/

namespace FieldRules

namespace Context

variable {c c' : Context} {field other : String} {state : FieldState}

/-! ## Inquiries that end -/

/-- The result of an inquiry is stored, and an error is kept. -/
theorem applyVerdict_eq (hname : state.name ≠ "") (e : Evaluation)
    (verdict : Except ConfigError Verdict) :
    c.applyVerdict state e verdict =
      (c.stored (state.concluded c.engine e verdict)).retain (verdict.map fun _ => ()) := by
  have hconcluded : (state.concluded c.engine e verdict).name ≠ "" := by
    rwa [FieldState.name_of_setup (state.setup_concluded _ _ _)]
  cases verdict with
  | ok verdict =>
    simp only [FieldState.concluded] at hconcluded ⊢
    simp only [applyVerdict, store_eq _ hconcluded]
    rfl
  | error e =>
    simp only [FieldState.concluded] at hconcluded ⊢
    simp only [applyVerdict, store_eq _ hconcluded]
    rfl

/-- An inquiry that is still wanted ends with its result stored. -/
theorem conclude_eq {inquiry : Inquiry} (hfind : c.fields.find? inquiry.field = some state)
    (hname : state.name ≠ "")
    (hcurrent : c.generations.current? inquiry.field = some inquiry.generation)
    (results : Results) :
    c.conclude inquiry results =
      ((c.note (.concluded inquiry.field inquiry.generation)).stored
        (state.concluded c.engine inquiry.evaluation
          (c.engine.collect inquiry.field results))).retain
        ((c.engine.collect inquiry.field results).map fun _ => ()) := by
  unfold conclude
  rw [if_pos (by rw [Generations.isCurrent, hcurrent, decide_eq_true_eq]), hfind]
  exact applyVerdict_eq hname _ _

/-- An inquiry that is no longer wanted ends without any effect. -/
theorem conclude_of_stale {inquiry : Inquiry}
    (hstale : c.generations.current? inquiry.field ≠ some inquiry.generation) (results : Results) :
    c.conclude inquiry results = c := by
  unfold conclude
  rw [if_neg (by rwa [Generations.isCurrent, decide_eq_true_eq])]

/-! ## What happens makes sound contexts evolve -/

theorem evolves_perform (hsound : c.Sound) (operation : Operation)
    (hnow : ∀ ms, operation ≠ .advance ms) : Evolves c (c.perform operation).1 := by
  have hregular := hsound.regular
  cases operation with
  | register registration => exact evolves_register hsound registration
  | unregister field => exact evolves_remove hsound field
  | setRules field rules => exact evolves_setRules hsound field rules
  | setValue field value => exact evolves_change hsound field (some value)
  | clearValue field => exact evolves_change hsound field none
  | setDisabled field disabled => exact evolves_setDisabled hsound field disabled
  | validate field => exact evolves_validate hsound field
  | checkForm form => exact evolves_checkForm hsound form
  | resetForm form options => exact evolves_resetForm hsound form options
  | advance ms => exact absurd rfl (hnow ms)
  | setCallback name callback =>
    exact .of_view_eq ⟨hregular.summary, hregular.forms, hregular.clock⟩ rfl fun _ => rfl
  | removeCallback name =>
    exact .of_view_eq ⟨hregular.summary, hregular.forms, hregular.clock⟩ rfl fun _ => rfl
  | takeErrors =>
    exact .of_view_eq ⟨hregular.summary, hregular.forms, hregular.clock⟩ rfl fun _ => rfl

/-- A question to callbacks changes no view: the inquiry is under way before and
after it. -/
theorem evolves_ask (hsound : c.Sound) {before after : List Inquiry} {inquiry : Inquiry}
    (hready : c.ready = before ++ inquiry :: after) (replies : Replies) :
    Evolves c ({ c with ready := before ++ after }.listen inquiry replies) := by
  have hregular := hsound.regular
  refine .of_view_eq ⟨hregular.summary, hregular.forms, hregular.clock.set_reply _ _ _⟩ rfl
    fun field => ?_
  have hperm : ({ c with ready := before ++ after }.listen inquiry replies).underWay.Perm
      c.underWay := by
    unfold underWay
    rw [hready]
    refine ((Clock.inquiries_set_reply _ _ _ _).append_left _).trans ?_
    refine List.perm_middle.trans ?_
    rw [← List.cons_append]
    exact List.perm_middle.symm.append_right _
  ext1
  case waiting =>
    simp only [view, listen, Clock.isPending_set]
    simp
  case inquiries => exact Multiset.coe_eq_coe.2 (hperm.filter _)
  all_goals rfl

section Fire

variable {before after : List (Timer Event)} {timer : Timer Event}

/-- Once its timer has run out, the evaluation of a field does not wait. -/
theorem view_take_self (hsound : c.Sound) (htimers : c.clock.timers = before ++ timer :: after)
    (hkey : timer.key = some field) (now : Nat) :
    (c.atInstant now (before ++ after)).view field = { c.view field with waiting := false } := by
  simp only [view, atInstant, underWay, marks,
    Clock.isPending_take_self hsound.regular.clock htimers hkey,
    Clock.inquiries_take_key htimers hkey]

theorem view_take_of_ne (htimers : c.clock.timers = before ++ timer :: after)
    (hkey : timer.key = some field) (hne : field ≠ other) (now : Nat) :
    (c.atInstant now (before ++ after)).view other = c.view other := by
  have hother : timer.key ≠ some other := by
    rw [hkey]
    simpa using hne
  simp only [view, atInstant, underWay, marks, Clock.isPending_take_of_ne htimers hother,
    Clock.inquiries_take_key htimers hkey]

theorem evolves_fire_evaluate (hsound : c.Sound)
    (htimers : c.clock.timers = before ++ timer :: after)
    (hevent : timer.event = .evaluate field) (now : Nat) :
    Evolves c ((c.atInstant now (before ++ after)).fire timer.event) := by
  have hkey : timer.key = some field := by
    rw [hsound.regular.clock.key_eq timer (by simp [htimers]), hevent]
    rfl
  have hregular : (c.atInstant now (before ++ after)).Regular :=
    ⟨hsound.regular.summary, hsound.regular.forms, hsound.regular.clock.take htimers now⟩
  rw [hevent]
  refine Evolves.retain ?_ _
  cases hfind : c.fields.find? field with
  | none =>
    have htake : Evolves c (c.atInstant now (before ++ after)) := by
      refine .of_views field hregular rfl (.of_eq ?_) fun other hother =>
        .of_eq (view_take_of_ne htimers hkey hother now)
      rw [view_take_self hsound htimers hkey now, ← (hsound.absent hfind).waiting]
    exact htake.trans (evolves_evaluate_of_unregistered (htake.sound hsound) hfind)
  | some state =>
    refine evolves_evaluate hsound hregular rfl ?_ fun other hother =>
      .of_eq (view_take_of_ne htimers hkey hother now)
    rw [view_take_self hsound htimers hkey now]
    exact .again hfind

variable {inquiry : Inquiry} {results : Results}

theorem underWay_take_perm (hsound : c.Sound) (htimers : c.clock.timers = before ++ timer :: after)
    (hevent : timer.event = .reply inquiry results) (now : Nat) :
    c.underWay.Perm (inquiry :: (c.atInstant now (before ++ after)).underWay) :=
  ((Clock.inquiries_take_reply hsound.regular.clock htimers hevent now).append_left _).trans
    List.perm_middle

/-- Once its timer has run out, an inquiry is no longer under way. -/
theorem view_take_reply_self (hsound : c.Sound)
    (htimers : c.clock.timers = before ++ timer :: after)
    (hevent : timer.event = .reply inquiry results) (now : Nat) :
    inquiry ∈ (c.view inquiry.field).inquiries ∧
      (c.atInstant now (before ++ after)).view inquiry.field =
        { c.view inquiry.field with
          inquiries := (c.view inquiry.field).inquiries.erase inquiry } := by
  have hkey : timer.key = none := by
    rw [hsound.regular.clock.key_eq timer (by simp [htimers]), hevent]
    rfl
  have hperm := (underWay_take_perm hsound htimers hevent now).filter
    (·.field = inquiry.field)
  rw [List.filter_cons_of_pos (by simp)] at hperm
  have hinquiries : (c.view inquiry.field).inquiries =
      inquiry ::ₘ ((c.atInstant now (before ++ after)).view inquiry.field).inquiries :=
    Multiset.coe_eq_coe.2 hperm
  rw [hinquiries]
  refine ⟨Multiset.mem_cons_self _ _, ?_⟩
  rw [Multiset.erase_cons_head]
  ext1
  case waiting => exact Clock.isPending_take_of_ne htimers (by simp [hkey]) now
  all_goals rfl

theorem view_take_reply_of_ne (hsound : c.Sound)
    (htimers : c.clock.timers = before ++ timer :: after)
    (hevent : timer.event = .reply inquiry results) (hne : inquiry.field ≠ other) (now : Nat) :
    (c.atInstant now (before ++ after)).view other = c.view other := by
  have hkey : timer.key = none := by
    rw [hsound.regular.clock.key_eq timer (by simp [htimers]), hevent]
    rfl
  have hperm := (underWay_take_perm hsound htimers hevent now).filter (·.field = other)
  rw [List.filter_cons_of_neg (by simpa using hne)] at hperm
  ext1
  case waiting => exact Clock.isPending_take_of_ne htimers (by simp [hkey]) now
  case inquiries => exact Multiset.coe_eq_coe.2 hperm.symm
  all_goals rfl

theorem evolves_fire_reply (hsound : c.Sound)
    (htimers : c.clock.timers = before ++ timer :: after)
    (hevent : timer.event = .reply inquiry results) (now : Nat) :
    Evolves c ((c.atInstant now (before ++ after)).fire timer.event) := by
  have hregular : (c.atInstant now (before ++ after)).Regular :=
    ⟨hsound.regular.summary, hsound.regular.forms, hsound.regular.clock.take htimers now⟩
  obtain ⟨hmem, hself⟩ := view_take_reply_self hsound htimers hevent now
  have hothers := fun other (hother : inquiry.field ≠ other) =>
    view_take_reply_of_ne hsound htimers hevent hother now
  have hengine : (c.atInstant now (before ++ after)).engine = c.engine := rfl
  rw [hevent, fire]
  by_cases hcurrent : c.generations.current? inquiry.field = some inquiry.generation
  · obtain ⟨state, hfind⟩ := hsound.exists_state_of_current hcurrent
    have hpresent := hsound.present hfind
    rw [conclude_eq (c := c.atInstant now (before ++ after)) hfind
      (by rw [hpresent.name]; exact hpresent.named) hcurrent, hengine]
    have hname : (state.concluded c.engine inquiry.evaluation
        (c.engine.collect inquiry.field results)).name = inquiry.field :=
      (FieldState.name_of_setup (state.setup_concluded _ _ _)).trans hpresent.name
    refine Evolves.retain ?_ _
    refine .of_views inquiry.field ((hregular.note _).stored _) rfl ?_ ?_
    · rw [view_stored_self _ hname, view_note_self _ (by rfl), hself]
      exact .single (.concluded hfind hmem hcurrent _)
    · intro other hother
      refine .of_eq ?_
      rw [view_stored_of_ne _ (by rwa [hname]),
        view_note_of_ne _ (.concluded inquiry.field inquiry.generation) hother,
        hothers other hother]
  · rw [conclude_of_stale (by exact hcurrent)]
    refine .of_views inquiry.field hregular rfl ?_ fun other hother =>
      .of_eq (hothers other hother)
    rw [hself]
    exact .single (.dropped hmem hcurrent)

end Fire

theorem Next.evolves (hnext : c.Next c') (hsound : c.Sound) : Evolves c c' := by
  cases hnext with
  | operation operation hnow => exact evolves_perform hsound operation hnow
  | ask hready replies hreplies => exact evolves_ask hsound hready replies
  | @fire before after timer htimers =>
    cases hevent : timer.event with
    | evaluate field => exact hevent ▸ evolves_fire_evaluate hsound htimers hevent c.clock.now
    | reply inquiry results => exact hevent ▸ evolves_fire_reply hsound htimers hevent c.clock.now
  | wait now =>
    have hclock : (⟨now, c.clock.timers⟩ : Clock Event).Sound :=
      hsound.regular.clock.sublist (List.Sublist.refl _) now
    exact .of_view_eq ⟨hsound.regular.summary, hsound.regular.forms, hclock⟩ rfl fun _ => rfl

theorem Leads.evolves (hleads : c.Leads c') (hsound : c.Sound) : Evolves c c' := by
  induction hleads with
  | refl => exact .refl hsound.regular
  | tail _ hnext ih => exact ih.trans (hnext.evolves (ih.sound hsound))

/-! ## Reachable contexts -/

theorem Sound.start (translator : Message.Translator) (config : EngineConfig)
    (callbacks : Callbacks) : (start translator config callbacks).Sound :=
  ⟨⟨List.nodup_nil, .empty, .empty⟩, fun field => View.Intact.empty field⟩

/-- All reachable contexts are sound. -/
theorem Reachable.sound (hreach : c.Reachable) : c.Sound := by
  obtain ⟨translator, config, callbacks, hleads⟩ := hreach
  exact (hleads.evolves (.start translator config callbacks)).sound
    (.start translator config callbacks)

/-- What every move keeps is still true later. -/
theorem Leads.view_induction {motive : View → Prop} (hleads : c.Leads c') (hsound : c.Sound)
    (hmove : ∀ v w, v.Intact field → motive v → Move c.engine field v w → motive w)
    (hstart : motive (c.view field)) : motive (c'.view field) := by
  have hmoves : ∀ w, Moves c.engine field (c.view field) w → w.Intact field ∧ motive w := by
    intro w hmoves
    induction hmoves with
    | refl => exact ⟨hsound.intact field, hstart⟩
    | tail _ hlast ih => exact ⟨ih.1.move hlast, hmove _ _ ih.1 ih.2 hlast⟩
  exact (hmoves _ ((hleads.evolves hsound).moves field)).2

/-- What is true of the empty view and kept by every move is true of all fields
at all times. -/
theorem Reachable.view_induction {motive : View → Prop} (hreach : c.Reachable) (field : String)
    (hmove : ∀ v w, v.Intact field → motive v → Move c.engine field v w → motive w)
    (hempty : motive .empty) : motive (c.view field) := by
  obtain ⟨translator, config, callbacks, hleads⟩ := hreach
  have hsound := Sound.start translator config callbacks
  rw [(hleads.evolves hsound).engine] at hmove
  exact hleads.view_induction hsound hmove hempty

end Context

end FieldRules
