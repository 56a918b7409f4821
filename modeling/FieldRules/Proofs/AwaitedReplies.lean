import FieldRules.Proofs.Statuses

/-!
# No field waits for a reply that cannot come

A field stores the generation of the inquiry whose reply counts.  The generations
that are current and the inquiries that are under way are kept elsewhere, and are
written by other operations.  At all times the three records agree, whatever
messages can be found and whatever the callbacks do.

* `View.Asks`: every inquiry under way asks a callback.
* `AwaitsReplies`: what the generation that a field stores and its status tell about
  the replies to come.
* `awaitsReplies_of_reachable`: they tell the truth in every reachable context.
-/

namespace FieldRules

/-! ## Inquiries ask callbacks -/

/-- An evaluation makes an inquiry only if it has a callback to ask. -/
theorem FieldState.pending_of_launched {state : FieldState} {value : Option String}
    {generation : Nat} {result : Except ConfigError Evaluation} {inquiry : Inquiry}
    (hmem : inquiry ∈ state.launched value generation result) :
    inquiry.evaluation.pending ≠ [] := by
  cases result with
  | error e => exact absurd hmem List.not_mem_nil
  | ok e =>
    rw [launched] at hmem
    split at hmem
    · exact absurd hmem List.not_mem_nil
    · rename_i hlaunches
      rw [List.mem_singleton.1 hmem]
      intro hpending
      refine hlaunches ?_
      rw [Evaluation.isAwaiting, hpending]
      exact Bool.or_true _

namespace View

variable {engine : Engine} {field : String} {v w : View}

/-- Every inquiry under way asks a callback. -/
def Asks (v : View) : Prop :=
  ∀ inquiry ∈ v.inquiries, inquiry.evaluation.pending ≠ []

theorem Asks.prepares (hasks : v.Asks) (hprepares : Prepares field v w) : w.Asks := by
  cases hprepares with
  | renewed hrenewed =>
    obtain ⟨hstate, touched, emptied, hcurrent, hissued⟩ := hrenewed
    exact hasks
  | _ => exact hasks

/-- Every move leaves only inquiries that ask a callback. -/
theorem Asks.move (hasks : v.Asks) (hmove : Move engine field v w) : w.Asks := by
  cases hmove with
  | evaluated hprepares hstate others =>
    intro inquiry hmem
    rcases Multiset.mem_add.1 hmem with hmem | hmem
    · exact hasks.prepares hprepares inquiry hmem
    · exact FieldState.pending_of_launched (Multiset.mem_coe.1 hmem)
  | concluded hstate hmem hcurrent verdict =>
    exact fun other hother => hasks other (Multiset.mem_of_mem_erase hother)
  | dropped hmem hstale => exact fun other hother => hasks other (Multiset.mem_of_mem_erase hother)
  | abandoned hrenewed hfails => exact hasks.prepares (.renewed hrenewed)
  | _ => exact hasks

end View

/-! ## Reachable contexts -/

namespace Context

variable {c : Context} {field : String} {state : FieldState} {inquiry : Inquiry}

theorem mem_view_inquiries :
    inquiry ∈ (c.view field).inquiries ↔ inquiry ∈ c.underWay ∧ inquiry.field = field := by
  simp [view]

theorem Reachable.asks (hreach : c.Reachable) (field : String) : (c.view field).Asks :=
  hreach.view_induction field (motive := View.Asks) (fun _ _ _ hasks hmove => hasks.move hmove)
    (by simp [View.Asks, View.empty])

/-- Callbacks that an evaluation of a field asks have yet to reply. -/
def InFlight (c : Context) (field : String) (generation : Nat) : Prop :=
  ∃ inquiry ∈ c.underWay, inquiry.field = field ∧ inquiry.generation = generation ∧
    inquiry.evaluation.pending ≠ []

/-- A field stores the generation of which a reply is to come and will count, and
is invalid until then. -/
structure AwaitsReplies (c : Context) (field : String) (state : FieldState) : Prop where
  generation_iff : ∀ generation, state.generation = some generation ↔
    c.InFlight field generation ∧ c.generations.current? field = some generation
  applied : ∀ inquiry ∈ c.underWay, inquiry.field = field →
    state.generation = some inquiry.generation →
      ∀ results, Applied c inquiry results (c.conclude inquiry results)
  awaiting : state.generation.isSome = true ∨ state.status = .awaitingRemote →
    state.valid = false ∧ ∃ generation, c.InFlight field generation ∧
      c.generations.current? field = some generation

/-- In every reachable context each field waits for the replies that are to come
and will count, and for no others. -/
theorem awaitsReplies_of_reachable (hreach : c.Reachable)
    (hfind : c.fields.find? field = some state) : c.AwaitsReplies field state := by
  have hcoherent := hreach.coherent hfind
  have hpresent := hreach.sound.present hfind
  have hinFlight : ∀ generation, c.InFlight field generation ↔
      ∃ inquiry ∈ (c.view field).inquiries, inquiry.generation = generation := by
    intro generation
    constructor
    · rintro ⟨inquiry, hmem, hfield, hgeneration, -⟩
      exact ⟨inquiry, mem_view_inquiries.2 ⟨hmem, hfield⟩, hgeneration⟩
    · rintro ⟨inquiry, hmem, hgeneration⟩
      obtain ⟨hunderWay, hfield⟩ := mem_view_inquiries.1 hmem
      exact ⟨inquiry, hunderWay, hfield, hgeneration, hreach.asks field inquiry hmem⟩
  have hgeneration : ∀ generation, state.generation = some generation ↔
      c.InFlight field generation ∧ c.generations.current? field = some generation := by
    intro generation
    rw [hcoherent.generation_iff, hinFlight]
    exact and_comm
  refine ⟨hgeneration, fun inquiry hmem hfield hstored results => ?_, fun hawaiting => ?_⟩
  · subst hfield
    exact .of_current hfind hpresent.name hpresent.named ((hgeneration _).1 hstored).2 results
  · have hsome : state.generation.isSome = true := hawaiting.elim id hcoherent.awaiting
    obtain ⟨generation, hstored⟩ := Option.isSome_iff_exists.1 hsome
    exact ⟨hcoherent.asking hsome, generation, (hgeneration generation).1 hstored⟩

/-- A form in which the replies about two values of a field are still out. -/
def twoAsked : Context :=
  (start Message.english.translator { debounce := 0 }
    [("taken", ⟨fun _ => ⟨10, .ok ⟨false, some "in use"⟩⟩⟩)]).run
    [.register { name := "nick", rules := "remote:taken" }, .setValue "nick" "ann",
      .setValue "nick" "bob"]

/-- The field waits for the reply about the second value only. -/
theorem awaitsReplies_of_twoAsked :
    ∃ state, twoAsked.fields.find? "nick" = some state ∧ state.generation = some 3 ∧
      (twoAsked.underWay.map (·.generation)) = [2, 3] ∧ twoAsked.AwaitsReplies "nick" state := by
  have hgeneration : (twoAsked.fields.find? "nick").map (·.generation) = some (some 3) := by
    decide +kernel
  obtain ⟨state, hfind, hstored⟩ := Option.map_eq_some_iff.1 hgeneration
  refine ⟨state, hfind, hstored, by decide +kernel, ?_⟩
  exact awaitsReplies_of_reachable ((Reachable.start _ _ _).run _) hfind

end Context

end FieldRules
