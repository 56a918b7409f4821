import FieldRules.Proofs.CompiledRules

/-!
# English has a text for every rule

Rules that compile can be evaluated with the English messages, and no message
is left with an empty place.

* `Rule.speaks_of_compile`: the validators of a chain have English messages.
* `Translator.Covers`: a translator has a text wherever English has one, as the
  English one with other messages in place of some of its own.
* `Engine.exists_evaluate_of_covers`: with such a translator evaluating a field never
  fails.
* `Rule.reliable_of_compile`: what rules that compile can be relied on for.
-/

namespace FieldRules

/-! ## The texts of the keys -/

/-- There is an English template for a message key. -/
def Message.Spoken (key : String) : Prop :=
  (Message.english.template? key).isSome = true

/-- The translator has a text for every message key that has an English template. -/
def Message.Translator.Covers (translator : Translator) : Prop :=
  ∀ key params, Spoken key → ∃ text, translator.resolve key params = .ok text

theorem Message.Table.covers {table : Table}
    (htemplates : ∀ key, Spoken key → (table.template? key).isSome = true) :
    table.translator.Covers := by
  intro key params hspoken
  obtain ⟨template, htemplate⟩ := Option.isSome_iff_exists.1 (htemplates key hspoken)
  refine ⟨fill template params, ?_⟩
  change table.resolve key params = _
  rw [Table.resolve, htemplate]

theorem Message.english_covers : english.translator.Covers :=
  Table.covers fun _ hspoken => hspoken

/-- No template is lost where others are set. -/
theorem Message.Table.template?_withMessages (messages : List (String × String)) (key : String) :
    ∀ table : Table, (table.template? key).isSome = true →
      ((table.withMessages messages).template? key).isSome = true := by
  induction messages with
  | nil => exact fun _ hsome => hsome
  | cons message rest ih =>
    refine fun table hsome => ih (table.withMessage message.1 message.2) ?_
    unfold template? withMessage at *
    by_cases hkey : message.1 = key
    · rw [← hkey, Assoc.find?_put_self]
      rfl
    · rwa [Assoc.find?_put_of_ne _ _ hkey]

theorem Message.covers_withMessages (messages : List (String × String)) :
    (english.withMessages messages).translator.Covers :=
  Table.covers fun key hspoken => Table.template?_withMessages messages key english hspoken

/-- The text of a key whose template has a place for each of the parameters has no
place left. -/
theorem Message.Fits.exists_filled {key : String} {params : List String}
    (hfits : Fits key params.length) :
    ∃ template text, Message.english.template? key = some template ∧
      placeCount template.toList = params.length ∧
      Message.english.translator.resolve key params = .ok text ∧
      Filled template.toList (params.map String.toList) text.toList := by
  obtain ⟨template, htemplate, hcount⟩ := Option.map_eq_some_iff.1 hfits
  refine ⟨template, fill template params, htemplate, hcount, ?_, ?_⟩
  · change Message.english.resolve key params = _
    rw [Table.resolve, htemplate]
  · rw [fill, String.toList_ofList]
    exact filled_fillChars (by rw [hcount, List.length_map])

namespace Validator

/-- All keys of the validator have English templates. -/
def Speaks (v : Validator) : Prop :=
  ∀ key ∈ v.keys, Message.Spoken key

theorem Sound.speaks {v : Validator} (hsound : v.Sound) : v.Speaks := by
  intro key hmem
  obtain ⟨template, htemplate, -⟩ := Option.map_eq_some_iff.1 (hsound.fits key hmem)
  exact Option.isSome_iff_exists.2 ⟨template, htemplate⟩

end Validator

/-- The validators of a chain have English messages. -/
theorem Rule.speaks_of_compile {rules : String} {compiled : Compiled}
    (h : compile rules = .ok compiled) : ∀ v ∈ compiled.validators, v.Speaks :=
  fun v hmem => (sound_of_compile h v hmem).speaks

/-! ## Evaluations -/

namespace Engine

variable {engine : Engine}

theorem resolve_of_speaks (hcovers : engine.translator.Covers)
    {v : Validator} (hspeaks : v.Speaks) (text : String) :
    ∃ message, Message.resolve engine.translator (v.failureKey text) v.params v.alt =
      .ok message := by
  unfold Message.resolve
  cases v.alt with
  | none =>
    obtain ⟨message, hmessage⟩ := hcovers _ v.params (hspeaks _ (v.failureKey_mem text))
    exact ⟨message, by dsimp only; rw [hmessage]⟩
  | some alt =>
    dsimp only
    cases engine.translator.resolve alt v.params with
    | ok message => exact ⟨message, rfl⟩
    | error e => exact ⟨_, rfl⟩

theorem run_of_speaks (hcovers : engine.translator.Covers)
    (value : Option String) (others : String → Option String) {validators : List Validator}
    (hspeaks : ∀ v ∈ validators, v.Speaks) :
    ∀ (index : Nat) (e : Evaluation), ∃ e', engine.run value others index validators e = .ok e' := by
  induction validators with
  | nil => exact fun index e => ⟨e, rfl⟩
  | cons v rest ih =>
    have ih := ih fun v hmem => hspeaks v (List.mem_cons_of_mem _ hmem)
    intro index e
    rw [run]
    split
    · exact ih _ _
    · dsimp only
      split
      · split
        · exact ⟨_, rfl⟩
        · exact ih _ _
      · obtain ⟨message, hmessage⟩ :=
          resolve_of_speaks hcovers (hspeaks v List.mem_cons_self) (value.getD "")
        rw [hmessage]
        exact ih _ _

/-- With a text for every message a field with compiled rules can be evaluated. -/
theorem exists_evaluate_of_covers (hcovers : engine.translator.Covers)
    {state : FieldState} {rules : String} {compiled : Rule.Compiled}
    (hcompile : Rule.compile rules = .ok compiled)
    (hvalidators : state.validators = compiled.validators) (value : Option String)
    (others : String → Option String) : ∃ e, engine.evaluate state value others = .ok e := by
  unfold evaluate
  split
  · exact ⟨_, rfl⟩
  · obtain ⟨e, he⟩ := run_of_speaks hcovers value others
      (hvalidators ▸ Rule.speaks_of_compile hcompile) 0
      { target := state.requirement.target state.validators.length }
    exact ⟨engine.conclude e, by dsimp only; rw [he]; rfl⟩

end Engine

/-! ## What compiled rules can be relied on for -/

namespace Rule

/-- Rules that compile raise no errors later on.

* A field with their validators can be evaluated, whatever its settings, those of
  the engine, its value and the other values are.
* Every bound in a test, the tests of both shapes included, is a number or an
  instant of the format of the rule.
* The template of each message of a validator, again of both shapes, has one place
  for each of the parameters, so its text has no place left. -/
structure Compiled.Reliable (compiled : Compiled) : Prop where
  evaluates : ∀ (config : EngineConfig) (state : FieldState),
    state.validators = compiled.validators →
      ∀ (value : Option String) (others : String → Option String),
        ∃ e, (Engine.ofConfig Message.english.translator config).evaluate state value others = .ok e
  readable : ∀ v ∈ compiled.validators, ∀ test ∈ v.tests, test.Readable
  filled : ∀ v ∈ compiled.validators, ∀ key ∈ v.keys,
    ∃ template text, Message.english.template? key = some template ∧
      Message.placeCount template.toList = v.params.length ∧
      Message.english.translator.resolve key v.params = .ok text ∧
      Message.Filled template.toList (v.params.map String.toList) text.toList

theorem reliable_of_compile {rules : String} {compiled : Compiled}
    (hcompile : compile rules = .ok compiled) : compiled.Reliable where
  evaluates _ _ hvalidators value others :=
    Engine.exists_evaluate_of_covers Message.english_covers hcompile hvalidators value others
  readable v hmem := (sound_of_compile hcompile v hmem).readable
  filled v hmem key hkey := ((sound_of_compile hcompile v hmem).fits key hkey).exists_filled

/-- Rules with bounds of every kind: with two shapes or one of them, between blanks,
with an exponent, and with a time of day. -/
def boundedRules : String :=
  "required|size: 5 |between:-1.5, 1e3 |date_euro_between: 01/02/24 , 31.12.2024 23:59:59 " ++
    "|match:email,E-mail|in:a,b"

theorem reliable_of_boundedRules :
    ∃ compiled, compile boundedRules = .ok compiled ∧ compiled.validators.length = 6 ∧
      compiled.Reliable := by
  have hlength : ∀ compiled ∈ (compile boundedRules).toOption,
      compiled.validators.length = 6 := by
    decide +kernel
  obtain ⟨compiled, hcompiled⟩ := Option.isSome_iff_exists.1
    (show (compile boundedRules).toOption.isSome = true by decide +kernel)
  have hcompile := eq_ok_of_toOption hcompiled
  exact ⟨compiled, hcompile, hlength compiled hcompiled, reliable_of_compile hcompile⟩

end Rule

end FieldRules
