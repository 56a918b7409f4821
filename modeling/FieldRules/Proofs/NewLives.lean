import FieldRules.Proofs.LifeTime

/-!
# New lives

A name can have one field after the other.  A field that is registered has nothing from
the fields that had its name before: not their rules and options, not their forms, not an
evaluation of theirs that still waits, and not a reply to one of their inquiries that
comes later.

* `Outlook`: what can be seen of a field from outside.
* `Context.life_run_register`: the life of a field after its registration depends on
  nothing that the name has been before.
* `Context.Past`: inquiries of earlier lives, which will never be current again.
* `Context.new_life`: two contexts in which a name had different lives show the same
  field once it is registered in both.
-/

namespace FieldRules

/-! ## What can be seen of a field -/

/-- What can be seen of a field: its report, its value, the milliseconds until the
evaluation that waits, what it depends on, and its entry in the summary. -/
structure Outlook where
  report : Option Report
  value : Option String
  waiting : Option Nat
  edges : List Dependency
  entry : Option SummaryEntry
  deriving DecidableEq, Repr

/-- What can be seen of a field in a context. -/
def Context.outlook (c : Context) (field : String) : Outlook where
  report := c.report? field
  value := c.values.find? field
  waiting := (c.clock.timers.find? (·.key = some field)).map (·.due - c.clock.now)
  edges := c.dependencies.edges.filter (·.dependent = field)
  entry := c.summary.get? field

/-- What can be seen of a life. -/
def Life.outlook (life : Life) : Outlook where
  report := life.state.map fun state =>
    { name := state.name
      form := state.form
      status := state.status
      valid := state.valid
      message := state.message
      touched := state.touched
      disabled := state.disabled
      friendlyName := state.displayName
      errorTarget := state.errorTarget
      value := life.value }
  value := life.value
  waiting := (life.timers.find? (·.key.isSome)).map (·.due)
  edges := life.edges
  entry := life.entry

namespace Context

variable {c c' d : Context} {field : String}

theorem outlook_life (hclock : c.clock.Sound) (field : String) :
    (c.life field).outlook = c.outlook field := by
  have hreport : (c.life field).outlook.report = (c.outlook field).report := by
    change Option.map _ (Option.map _ (c.fields.find? field)) = Option.map _ (c.fields.find? field)
    rw [Option.map_map]
    rfl
  have hwaiting : (c.life field).outlook.waiting = (c.outlook field).waiting := by
    change Option.map _ (List.find? _ (List.map (seen c.clock.now) (List.filter _ _))) = _
    rw [List.find?_map, Option.map_map, ← List.head?_filter, List.filter_filter]
    unfold outlook
    rw [← List.head?_filter]
    refine congrArg (fun timers => Option.map _ (List.head? timers)) (List.filter_congr ?_)
    intro timer hmem
    have hkey := hclock.key_eq timer hmem
    cases hevent : timer.event with
    | evaluate other =>
      rw [hevent] at hkey
      simp [seen, awaits, hkey, Event.key?]
    | reply inquiry results =>
      rw [hevent] at hkey
      simp [seen, hkey, Event.key?]
  unfold Life.outlook outlook at *
  dsimp only at hreport hwaiting
  rw [hreport, hwaiting]
  rfl

theorem outlook_eq_of_life (hc : c.Reachable) (hd : d.Reachable)
    (hlife : c.life field = d.life field) : c.outlook field = d.outlook field := by
  rw [← outlook_life hc.timely.sound, ← outlook_life hd.timely.sound, hlife]

/-! ## A registration starts a life -/

/-- What is left of a life when it ends is what the field is told of the rest. -/
theorem vacant_life_eq (hconfig : c.config = d.config) (htranslator : c.translator = d.translator)
    (hcallbacks : ∀ name, c.callbacks.find? name = d.callbacks.find? name)
    (hvalues : ∀ name, name ≠ field → c.values.find? name = d.values.find? name) :
    (c.life field).vacant = (d.life field).vacant := by
  ext1
  case config => exact hconfig
  case translator => exact htranslator
  case callbacks => exact funext hcallbacks
  case values =>
    funext name
    change (if name = field then none else c.values.find? name) =
      if name = field then none else d.values.find? name
    split
    · rfl
    · next hname => exact hvalues name hname
  all_goals rfl

/-- No field has the empty name. -/
theorem Sound.find?_empty (hsound : c.Sound) : c.fields.find? "" = none := by
  by_contra hsome
  obtain ⟨state, hfind⟩ := Option.ne_none_iff_exists'.1 hsome
  exact (hsound.orderly.named "" state hfind).2 rfl

variable {registration : Registration} {compiled : Rule.Compiled}

/-- A registration forgets whatever the name has been before. -/
theorem registered_vacant (hreach : c.Reachable)
    (hcompile : c.compile registration.rules = .ok compiled) :
    (c.life registration.name).registered registration =
      (c.life registration.name).vacant.registered registration := by
  unfold Life.registered
  split
  · next hempty =>
    have hname : registration.name = "" := by simpa using hempty
    rw [hname]
    exact life_of_absent hreach hreach.sound.find?_empty
  · have hold : (c.life registration.name).compile registration.rules = .ok compiled := hcompile
    have hnew : (c.life registration.name).vacant.compile registration.rules = .ok compiled :=
      hcompile
    have hvacant : (c.life registration.name).vacant.vacant = (c.life registration.name).vacant := by
      ext1
      case values =>
        funext name
        change (if name = registration.name then none
          else if name = registration.name then none else c.values.find? name) =
            if name = registration.name then none else c.values.find? name
        split <;> rfl
      all_goals rfl
    rw [hold, hnew, hvacant]

theorem life_step_register (hreach : c.Reachable)
    (hcompile : c.compile registration.rules = .ok compiled) :
    (c.step (.register registration)).1.life registration.name =
      ((c.life registration.name).vacant.registered registration).settled := by
  change (c.register registration).1.settle.life registration.name = _
  rw [life_settle (hreach.register registration), life_register hreach, registered_vacant hreach hcompile]

/-- A new life starts with nothing that is due. -/
theorem rested_register (hreach : c.Reachable)
    (hcompile : c.compile registration.rules = .ok compiled) :
    (c.step (.register registration)).1.Rested registration.name where
  reachable := hreach.leads (leads_step c _)
  ready := ready_settle _
  early := by
    rw [life_step_register hreach hcompile]
    have hvacant : (c.life registration.name).vacant.Early := Life.early_of_timers rfl
    exact (hvacant.registered registration).settled

/-- The life of a field after its registration, told without what the name has been
before. -/
theorem life_run_register (hreach : c.Reachable)
    (hcompile : c.compile registration.rules = .ok compiled) {operations : List Operation}
    (habout : ∀ operation ∈ operations, operation.About registration.name) :
    (c.run (.register registration :: operations)).life registration.name =
      operations.foldl Life.step
        ((c.life registration.name).vacant.registered registration).settled := by
  rw [← life_step_register hreach hcompile]
  exact life_run operations (rested_register hreach hcompile) habout

/-! ## What earlier lives have asked -/

/-- The numbers up to the given one are out of date, and are not given out again. -/
structure Past (number : Nat) (v : View) : Prop where
  issued : number ≤ v.issued
  current : ∀ generation, v.current = some generation → number < generation

theorem Past.renewed {number : Nat} {v w : View} (hpast : Past number v)
    (hrenewed : v.Renewed field w) : Past number w := by
  obtain ⟨hstate, touched, emptied, hcurrent, hissued⟩ := hrenewed
  have hbefore := hpast.issued.trans_lt hcurrent
  refine ⟨hbefore.le.trans hissued, ?_⟩
  rintro generation ⟨⟩
  exact hbefore

theorem Past.prepares {number : Nat} {v w : View} (hpast : Past number v)
    (hprepares : Prepares field v w) : Past number w := by
  cases hprepares with
  | renewed hrenewed => exact hpast.renewed hrenewed
  | _ => exact ⟨hpast.issued, hpast.current⟩

/-- A number that is given out is a new one. -/
theorem Past.move {engine : Engine} {number : Nat} {v w : View} (hpast : Past number v)
    (hmove : Move engine field v w) : Past number w := by
  have hnext : ∀ {v : View}, Past number v → ∀ generation, some (v.issued + 1) = some generation →
      number < generation := by
    rintro v hpast generation ⟨⟩
    exact Nat.lt_succ_of_le hpast.issued
  cases hmove with
  | elsewhere hissued => exact ⟨hpast.issued.trans hissued, hpast.current⟩
  | evaluated hprepares =>
    have hprepared := hpast.prepares hprepares
    exact ⟨Nat.le_succ_of_le hprepared.issued, hnext hprepared⟩
  | disabled => exact ⟨Nat.le_succ_of_le hpast.issued, hnext hpast⟩
  | unruled => exact ⟨Nat.le_succ_of_le hpast.issued, hnext hpast⟩
  | removed => exact ⟨hpast.issued, nofun⟩
  | abandoned hrenewed => exact hpast.renewed hrenewed
  | _ => exact ⟨hpast.issued, hpast.current⟩

/-- When a field is registered, all numbers of earlier lives are out of date, and no
evaluation of theirs waits any longer. -/
theorem past_register (hreach : c.Reachable)
    (hcompile : c.compile registration.rules = .ok compiled) :
    Past c.generations.issued ((c.register registration).1.view registration.name) ∧
      (c.register registration).1.clock.isPending registration.name = false := by
  rcases c.register_cases registration with ⟨e, hrefused, hreason⟩ | ⟨compiled, hname, -, haccepted⟩
  · have hname : registration.name = "" := hreason.resolve_right (by rw [hcompile]; nofun)
    have habsent := hreach.sound.absent hreach.sound.find?_empty
    have hcurrent : c.generations.current? "" = none := habsent.current
    rw [hrefused, hname]
    refine ⟨⟨Nat.le_refl _, fun generation hsome => ?_⟩, habsent.waiting⟩
    have hsome' : c.generations.current? "" = some generation := hsome
    rw [hcurrent] at hsome'
    cases hsome'
  · have habsent := (hreach.vacated registration.name).sound.absent
      (find?_vacated c registration.name)
    have hissued : (c.vacated registration.name).generations.issued = c.generations.issued := by
      unfold vacated
      split
      · next hregistered =>
        obtain ⟨state, hfind⟩ : ∃ state, c.fields.find? registration.name = some state := by
          simpa [isRegistered, Assoc.has, Option.isSome_iff_exists] using hregistered
        rw [remove_of_registered hfind]
        rfl
      · rfl
    have hfind := find?_fields_enroll (c.vacated registration.name) registration compiled
    obtain ⟨hgenerations, hclock⟩ :
        ((c.vacated registration.name).enroll registration compiled).generations.issued =
          c.generations.issued ∧
        ((c.vacated registration.name).enroll registration compiled).clock =
          (c.vacated registration.name).clock := by
      rw [enroll_eq, ← hissued]
      constructor <;> cases registration.value <;> rfl
    have hview := view_evaluate_self _ hfind rfl hname
    have hwaiting := congrArg View.waiting hview
    rw [haccepted, hview]
    refine ⟨⟨?_, ?_⟩, ?_⟩
    · change _ ≤ ((c.vacated registration.name).enroll registration compiled).generations.issued + 1
      omega
    · rintro generation ⟨⟩
      change _ < ((c.vacated registration.name).enroll registration compiled).generations.issued + 1
      omega
    · refine hwaiting.trans ?_
      change ((c.vacated registration.name).enroll registration compiled).clock.isPending _ = false
      rw [hclock]
      exact habsent.waiting

/-- An inquiry of an earlier life has no effect, whatever happens before it ends. -/
theorem conclude_of_earlier_life (hreach : c.Reachable)
    (hcompile : c.compile registration.rules = .ok compiled)
    (hleads : (c.register registration).1.Leads c') {inquiry : Inquiry}
    (hmem : inquiry ∈ c.ready ++ c.clock.inquiries) (hfield : inquiry.field = registration.name)
    (results : Results) : c'.conclude inquiry results = c' := by
  have hpast : Past c.generations.issued (c'.view registration.name) :=
    hleads.view_induction (hreach.register registration).sound (fun _ _ _ hpast hmove => hpast.move hmove)
      (past_register hreach hcompile).1
  refine conclude_of_stale (fun hcurrent => ?_) results
  rw [hfield] at hcurrent
  have hbefore := hreach.timely.numbered inquiry hmem
  have hafter := hpast.current inquiry.generation hcurrent
  omega

/-! ## Two lives -/

/-- Two contexts may have done whatever they like with a name, as long as they agree on
everything else that a field is told.  If the field is registered in both, and then the
same happens to it, the same can be seen of it at every moment: right after the
registration, after any operations with all that follows from them, and right after one
more operation.  What the earlier lives of the name have left under way has no effect:
their evaluation does not wait any longer, and their inquiries change nothing, at whatever
instant and in whatever order they end. -/
theorem new_life (hc : c.Reachable) (hd : d.Reachable) (hconfig : c.config = d.config)
    (htranslator : c.translator = d.translator)
    (hcallbacks : ∀ name, c.callbacks.find? name = d.callbacks.find? name)
    (hvalues : ∀ name, name ≠ registration.name → c.values.find? name = d.values.find? name)
    (hcompile : c.compile registration.rules = .ok compiled) {operations : List Operation}
    (habout : ∀ operation ∈ operations, operation.About registration.name) :
    let c' := c.run (.register registration :: operations)
    let d' := d.run (.register registration :: operations)
    (c.register registration).1.outlook registration.name =
        (d.register registration).1.outlook registration.name ∧
      c'.outlook registration.name = d'.outlook registration.name ∧
      (∀ operation, operation.About registration.name → (∀ ms, operation ≠ .advance ms) →
        (c'.perform operation).1.outlook registration.name =
          (d'.perform operation).1.outlook registration.name) ∧
      (c.register registration).1.clock.isPending registration.name = false ∧
      ∀ later, (c.register registration).1.Leads later →
        ∀ inquiry ∈ c.ready ++ c.clock.inquiries, inquiry.field = registration.name →
          ∀ results, later.conclude inquiry results = later := by
  intro c' d'
  have hvacant := vacant_life_eq hconfig htranslator hcallbacks hvalues
  have hcompile' : d.compile registration.rules = .ok compiled := by
    have hsame := congrArg (fun life : Life => life.compile registration.rules) hvacant
    exact hsame.symm.trans hcompile
  have hc' : c'.Reachable := hc.run _
  have hd' : d'.Reachable := hd.run _
  have hlife : c'.life registration.name = d'.life registration.name := by
    rw [life_run_register hc hcompile habout, life_run_register hd hcompile' habout, hvacant]
  refine ⟨?_, outlook_eq_of_life hc' hd' hlife, fun operation habout hnow => ?_,
    (past_register hc hcompile).2, fun later hleads inquiry hmem hfield results =>
      conclude_of_earlier_life hc hcompile hleads hmem hfield results⟩
  · refine outlook_eq_of_life (hc.register registration) (hd.register registration) ?_
    rw [life_register hc, life_register hd, registered_vacant hc hcompile,
      registered_vacant hd hcompile', hvacant]
  · refine outlook_eq_of_life (hc'.perform hnow) (hd'.perform hnow) ?_
    rw [life_perform hc' habout hnow, life_perform hd' habout hnow, hlife]

/-- In one context the name has a field in a form, which has asked a callback that has not
replied, and whose next evaluation waits.  In the other one it never had a field. -/
theorem new_life_of_two_pasts :
    let mail : Registration := { name := "mail", rules := "required", value := some "x" }
    let earlier : Registration :=
      { name := "nick", rules := "remote:taken", form := some "login", value := some "ann" }
    let c := (start Message.english.translator {}
      [("taken", ⟨fun _ => ⟨50, .ok ⟨false, some "in use"⟩⟩⟩)]).run
        [.register mail, .register earlier, .setValue "nick" "bob", .removeCallback "taken"]
    let d := (start Message.english.translator {} []).run [.register mail]
    let registration : Registration :=
      { name := "nick", rules := "min_len:4", options := { debounce := some 300 } }
    let operations : List Operation := [.setValue "nick" "zed", .advance 100]
    c.outlook "nick" ≠ d.outlook "nick" ∧ c.clock.timers.length = 2 ∧
      (c.run (.register registration :: operations)).outlook "nick" =
        (d.run (.register registration :: operations)).outlook "nick" ∧
      ((d.run (.register registration :: operations)).outlook "nick").waiting = some 200 ∧
      ∀ inquiry ∈ c.ready ++ c.clock.inquiries, inquiry.field = "nick" → ∀ results,
        (c.register registration).1.conclude inquiry results = (c.register registration).1 := by
  intro mail earlier c d registration operations
  have hleadsc : Leads _ c := leads_run _ _
  have hleadsd : Leads _ d := leads_run _ _
  have hconfig : c.config = d.config := by decide +kernel
  have htranslator : c.translator = d.translator := by
    have hfirst := congrArg Engine.translator (hleadsc.evolves (.start _ _ _)).engine
    have hsecond := congrArg Engine.translator (hleadsd.evolves (.start _ _ _)).engine
    exact hfirst.trans hsecond.symm
  have hcallbacks : ∀ name, c.callbacks.find? name = d.callbacks.find? name := by
    have hfirst : c.callbacks = [] := List.isEmpty_iff.1 (by decide +kernel)
    have hsecond : d.callbacks = [] := List.isEmpty_iff.1 (by decide +kernel)
    simp [hfirst, hsecond]
  have hvalues : ∀ name, name ≠ "nick" → c.values.find? name = d.values.find? name := by
    have hfirst : c.values = [("mail", "x"), ("nick", "bob")] := by decide +kernel
    have hsecond : d.values = [("mail", "x")] := by decide +kernel
    intro name hname
    simp [hfirst, hsecond, Assoc.find?_cons, Ne.symm hname]
  obtain ⟨compiled, hcompile⟩ := Option.isSome_iff_exists.1
    (show (c.compile registration.rules).toOption.isSome = true by decide +kernel)
  have habout : ∀ operation ∈ operations, operation.About registration.name := by decide +kernel
  have hlives := new_life ((Reachable.start _ _ _).leads hleadsc)
    ((Reachable.start _ _ _).leads hleadsd) hconfig htranslator hcallbacks hvalues
    (eq_ok_of_toOption hcompile) habout
  obtain ⟨-, hsame, -, -, hearlier⟩ := hlives
  exact ⟨by decide +kernel, by decide +kernel, hsame, by decide +kernel, hearlier _ .refl⟩

end Context

end FieldRules
