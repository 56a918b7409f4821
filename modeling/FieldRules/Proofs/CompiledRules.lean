import FieldRules.Evaluation
import FieldRules.Proofs.Placeholders
import FieldRules.Rule.Compile

/-!
# What rules compile to

The table of the rules, the English templates and the builders of validators
agree with one another.

* `Message.Fits`: English has a template for a key, with a given number of
  places.
* `Test.Readable`: the bounds of a test can be read as what they bound.
* `Validator.Sound`: the templates of a validator have a place for each of its
  parameters, and its bounds can be read.
* `Rule.makes_of_build`, `Rule.of_buildDate`: what a rule is built of, and into what.
* `Rule.sound_of_compile`: rules compile to sound validators.
-/

namespace FieldRules

/-! ## Binds that succeed -/

theorem bind_eq_ok {ε α β : Type} {x : Except ε α} {f : α → Except ε β} {b : β}
    (h : (x >>= f) = .ok b) : ∃ a, x = .ok a ∧ f a = .ok b := by
  cases x with
  | error e => cases h
  | ok a => exact ⟨a, rfl, h⟩

theorem map_eq_ok {ε α β : Type} {x : Except ε α} {f : α → β} {b : β}
    (h : x.map f = .ok b) : ∃ a, x = .ok a ∧ f a = b := by
  cases x with
  | error e => cases h
  | ok a =>
    cases h
    exact ⟨a, rfl, rfl⟩

theorem eq_ok_of_toOption {ε α : Type} {x : Except ε α} {a : α} (h : x.toOption = some a) :
    x = .ok a := by
  cases x with
  | error e => cases h
  | ok b =>
    cases h
    rfl

theorem exists_eq_ok_of_isSome {ε α : Type} {x : Except ε α} (h : x.toOption.isSome = true) :
    ∃ a, x = .ok a := by
  obtain ⟨a, ha⟩ := Option.isSome_iff_exists.1 h
  exact ⟨a, eq_ok_of_toOption ha⟩

theorem mem_of_mapM_eq_ok {ε α β : Type} {f : α → Except ε β} {items : List α}
    {results : List β} (h : items.mapM f = .ok results) :
    ∀ result ∈ results, ∃ item ∈ items, f item = .ok result := by
  induction items generalizing results with
  | nil =>
    cases h
    exact fun result hmem => absurd hmem List.not_mem_nil
  | cons head rest ih =>
    rw [List.mapM_cons] at h
    obtain ⟨first, hfirst, h⟩ := bind_eq_ok h
    obtain ⟨others, hothers, h⟩ := bind_eq_ok h
    cases h
    intro result hmem
    rcases List.mem_cons.1 hmem with rfl | hmem
    · exact ⟨head, List.mem_cons_self, hfirst⟩
    · obtain ⟨item, hitem, hresult⟩ := ih hothers result hmem
      exact ⟨item, List.mem_cons_of_mem head hitem, hresult⟩

/-! ## Binds that fail -/

theorem bind_eq_error {ε α β : Type} {x : Except ε α} {f : α → Except ε β} {e : ε}
    (h : (x >>= f) = .error e) : x = .error e ∨ ∃ a, x = .ok a ∧ f a = .error e := by
  cases x with
  | error e' =>
    cases h
    exact .inl rfl
  | ok a => exact .inr ⟨a, rfl, h⟩

theorem map_eq_error_iff {ε α β : Type} {x : Except ε α} {f : α → β} {e : ε} :
    x.map f = .error e ↔ x = .error e := by
  cases x <;> simp [Except.map]

theorem exists_of_mapM_eq_error {ε α β : Type} {f : α → Except ε β} {items : List α} {e : ε}
    (h : items.mapM f = .error e) : ∃ item ∈ items, f item = .error e := by
  induction items with
  | nil => cases h
  | cons head rest ih =>
    rw [List.mapM_cons] at h
    rcases bind_eq_error h with hhead | ⟨first, -, h⟩
    · exact ⟨head, List.mem_cons_self, hhead⟩
    · rcases bind_eq_error h with hrest | ⟨others, -, h⟩
      · obtain ⟨item, hmem, hitem⟩ := ih hrest
        exact ⟨item, List.mem_cons_of_mem head hmem, hitem⟩
      · cases h

/-! ## Templates and their places -/

/-- English has a template for the key, with this number of places. -/
def Message.Fits (key : String) (places : Nat) : Prop :=
  (Message.english.template? key).map (fun template => placeCount template.toList) = some places

theorem Message.fits_iff {key : String} {places : Nat} :
    Fits key places ↔
      Assoc.find? (english.templates.map fun row => (row.1, placeCount row.2.toList)) key =
        some places := by
  unfold Fits Table.template?
  rw [Assoc.find?_map fun template : String => placeCount template.toList]

namespace Rule

/-- The parameters that bounds put into a message. -/
def Bound.places : Bound → Nat
  | between => 2
  | _ => 1

/-- The parameters that a rule puts into its message. -/
def Family.places : Family → Nat
  | length bound | number bound | auto bound => bound.places
  | digits | list _ | matching _ | literal => 1
  | digitsBetween => 2
  | required | fixed _ | custom | remote => 0

/-- The parameters that a date rule puts into its message. -/
def datePlaces (bound : Option Bound) : Nat :=
  bound.elim 0 Bound.places

/-- The message keys of all rules, with the parameters that are put into them. -/
def messages : List (String × Nat) :=
  entries.map (fun entry => (entry.key, entry.family.places)) ++
    [Bound.exact, .min, .max, .between].map (fun bound => (bound.numericKey, bound.places)) ++
      Date.Format.all.flatMap fun format =>
        [none, some .min, some .max, some .between].map fun bound =>
          (dateMessageKey format bound, datePlaces bound)

/-- The table of the rules and the English templates agree. -/
theorem fits_of_mem_messages : ∀ row ∈ messages, Message.Fits row.1 row.2 := by
  simp only [Message.fits_iff, Message.english, Message.englishTemplates, Message.dateTemplates,
    List.map_append, List.map_flatMap, List.map_cons, List.map_nil, String.toList_append]
  -- the characters of a template are at hand; taking them out of its bytes would be slow
  repeat rw [String.toList_ofList]
  decide +kernel

theorem fits_of_mem_entries {entry : Entry} (hmem : entry ∈ entries) :
    Message.Fits entry.key entry.family.places :=
  fits_of_mem_messages (entry.key, entry.family.places) <|
    List.mem_append_left _ <| List.mem_append_left _ <| List.mem_map_of_mem hmem

theorem fits_numericKey (bound : Bound) : Message.Fits bound.numericKey bound.places := by
  refine fits_of_mem_messages (bound.numericKey, bound.places) <|
    List.mem_append_left _ <| List.mem_append_right _ <| List.mem_map_of_mem ?_
  cases bound <;> simp

theorem fits_dateMessageKey {format : Date.Format} (hformat : format ∈ Date.Format.all)
    {bound : Option Bound} (hbound : bound ≠ some .exact) :
    Message.Fits (dateMessageKey format bound) (datePlaces bound) := by
  refine fits_of_mem_messages (dateMessageKey format bound, datePlaces bound) <|
    List.mem_append_right _ <| List.mem_flatMap.2 ⟨format, hformat, List.mem_map_of_mem ?_⟩
  rcases bound with _ | _ | _ | _ | _
  case some.exact => exact absurd rfl hbound
  all_goals simp

/-- The rule that a keyword names is in the table, under that keyword. -/
theorem of_findEntry {name : String} {entry : Entry} (h : findEntry name = some entry) :
    entry ∈ entries ∧ name ∈ entry.name :: entry.aliases := by
  unfold findEntry at h
  have hfound := List.find?_some h
  simp only [Bool.or_eq_true, beq_iff_eq, List.contains_iff_mem] at hfound
  rw [List.mem_cons]
  exact ⟨List.mem_of_find?_eq_some h, hfound.imp_left Eq.symm⟩

/-- A keyword of a date rule names a format, and never one exact date. -/
theorem of_findDate {name : String} {format : Date.Format} {bound : Option Bound}
    (h : findDate name = some (format, bound)) :
    format ∈ Date.Format.all ∧ bound ≠ some .exact := by
  unfold findDate at h
  dsimp only at h
  obtain ⟨found, hfound, heq⟩ := Option.map_eq_some_iff.1 h
  obtain ⟨rfl, rfl⟩ := Prod.mk.inj heq
  refine ⟨List.mem_of_find?_eq_some hfound, ?_⟩
  have hnone : ∀ row ∈ dateBounds, row.1 ≠ some .exact := by decide
  cases hending : dateBounds.findSome? _ with
  | none => exact nofun
  | some pair =>
    obtain ⟨row, hrow, hpair⟩ := List.exists_of_findSome?_eq_some hending
    obtain ⟨stem, -, rfl⟩ := Option.map_eq_some_iff.1 hpair
    exact hnone row hrow

end Rule

/-! ## Bounds -/

/-- The bounds of the test can be read as what they bound. -/
def Test.Readable : Test → Prop
  | .pattern .. => True
  | .number conditions => ∀ c ∈ conditions, (Number.parse c.bound).isSome = true
  | .date format _ conditions => ∀ c ∈ conditions, (format.instant? c.bound).isSome = true

theorem Number.parse_trimmed (text : String) :
    Number.parse (Text.trimmed text) = Number.parse text := by
  unfold Number.parse Text.trimmed
  rw [String.toList_ofList, Text.trim_trim]

theorem Date.Format.instant?_trimmed (format : Date.Format) (text : String) :
    format.instant? (Text.trimmed text) = format.instant? text := by
  unfold instant? decompose decomposeChars Text.trimmed
  rw [String.toList_ofList, Text.trim_trim]

namespace Rule

theorem parse_of_numberBound {rule raw bound : String} (h : numberBound rule raw = .ok bound) :
    (Number.parse bound).isSome = true := by
  unfold numberBound at h
  split at h
  · next hparse =>
    cases h
    rwa [Number.parse_trimmed]
  · cases h

theorem instant?_of_dateBound {format : Date.Format} {rule raw bound : String}
    (h : dateBound format rule raw = .ok bound) : (format.instant? bound).isSome = true := by
  unfold dateBound at h
  split at h
  · next hinstant =>
    cases h
    rwa [Date.Format.instant?_trimmed]
  · cases h

/-- What is true of every bound that is read is true of the bounds of the conditions. -/
theorem forall_of_boundConditions {Good : String → Prop} {bound : Bound}
    {read : String → Except ConfigError String} {params : List String}
    {conditions : List Condition}
    (hread : ∀ raw text, read raw = .ok text → Good text)
    (h : boundConditions bound read params = .ok conditions) :
    ∀ c ∈ conditions, Good c.bound := by
  unfold boundConditions at h
  split at h
  case h_4 lo hi _ =>
    obtain ⟨least, hleast, h⟩ := bind_eq_ok h
    obtain ⟨greatest, hgreatest, h⟩ := bind_eq_ok h
    cases h
    simp [hread lo least hleast, hread hi greatest hgreatest]
  case h_5 =>
    cases h
    exact List.forall_mem_nil _
  all_goals
    obtain ⟨text, htext, h⟩ := bind_eq_ok h
    cases h
    exact List.forall_mem_singleton.2 (hread _ text htext)

theorem readable_of_numberTest {rule : String} {bound : Bound} {params : List String} {test : Test}
    (h : numberTest rule bound params = .ok test) : test.Readable := by
  obtain ⟨conditions, hconditions, rfl⟩ := map_eq_ok h
  exact forall_of_boundConditions (fun _ _ => parse_of_numberBound) hconditions

theorem readable_of_patternTest {rule : String} {e : Pattern.Expr} {test : Test}
    (h : patternTest rule e = .ok test) : test.Readable := by
  obtain ⟨p, -, rfl⟩ := map_eq_ok h
  trivial

theorem readable_of_lengthTest {rule : String} {bound : Bound} {params : List String} {test : Test}
    (h : lengthTest rule bound params = .ok test) : test.Readable := by
  obtain ⟨bounds, -, h⟩ := bind_eq_ok h
  exact readable_of_patternTest h

theorem readable_of_digitsTest {rule : String} {params : List String} {test : Test}
    (h : digitsTest rule params = .ok test) : test.Readable := by
  unfold digitsTest at h
  split at h
  · obtain ⟨n, -, h⟩ := bind_eq_ok h
    exact readable_of_patternTest h
  · obtain ⟨bounds, -, h⟩ := bind_eq_ok h
    exact readable_of_patternTest h
  · exact readable_of_patternTest h

end Rule

/-! ## Sound validators -/

namespace Validator

/-- The keys under which a failure of the validator is reported. -/
def keys (v : Validator) : List String :=
  match v.check with
  | .auto length number => v.key :: number.key :: (length.map (·.key)).toList
  | _ => [v.key]

/-- The tests that the validator may put a value to. -/
def tests (v : Validator) : List Test :=
  match v.check with
  | .test test => [test]
  | .auto length number => number.test :: (length.map (·.test)).toList
  | _ => []

/-- Each message of the validator has a place for each of its parameters, and
the bounds of its tests can be read. -/
structure Sound (v : Validator) : Prop where
  fits : ∀ key ∈ v.keys, Message.Fits key v.params.length
  readable : ∀ test ∈ v.tests, test.Readable

theorem Sound.of_keys_eq {v : Validator} (hkeys : v.keys = [v.key])
    (hfits : Message.Fits v.key v.params.length) (hreadable : ∀ test ∈ v.tests, test.Readable) :
    v.Sound := by
  refine ⟨?_, hreadable⟩
  rw [hkeys]
  exact List.forall_mem_singleton.2 hfits

theorem failureKey_mem (v : Validator) (text : String) : v.failureKey text ∈ v.keys := by
  unfold failureKey keys
  cases v.check with
  | auto length number =>
    dsimp only [chooseShape]
    split
    · simp
    · cases length <;> simp
  | _ => exact List.mem_singleton_self v.key

end Validator

namespace Rule

theorem of_expectParams {rule : String} {params kept : List String} {expected : Arity}
    (h : expectParams rule params expected = .ok kept) :
    kept = params ∧ expected.admits kept.length = true := by
  unfold expectParams at h
  split at h
  · next hadmits =>
    cases h
    exact ⟨rfl, hadmits⟩
  · cases h

theorem admits_arity_iff {bound : Bound} {n : Nat} :
    bound.arity.admits n = true ↔ n = bound.places := by
  cases bound <;> exact beq_iff_eq

theorem length_of_expectParams {rule : String} {params kept : List String} {bound : Bound}
    (h : expectParams rule params bound.arity = .ok kept) : kept.length = bound.places :=
  admits_arity_iff.1 (of_expectParams h).2

theorem of_autoCheck {entry : Entry} {bound : Bound} {params : List String} {check : Check}
    (h : autoCheck entry bound params = .ok check) :
    ∃ length number, check = .auto length number ∧
      number.key = bound.numericKey ∧ number.test.Readable ∧
      ∀ shape ∈ length, shape.key = entry.key ∧ shape.test.Readable := by
  unfold autoCheck at h
  obtain ⟨number, hnumber, h⟩ := bind_eq_ok h
  have hreadable := readable_of_numberTest hnumber
  dsimp only at h
  split at h
  · obtain ⟨length, hlength, h⟩ := bind_eq_ok h
    cases h
    obtain ⟨test, htest, rfl⟩ := map_eq_ok hlength
    refine ⟨_, _, rfl, rfl, hreadable, ?_⟩
    rintro shape ⟨⟩
    exact ⟨rfl, readable_of_lengthTest htest⟩
  · obtain ⟨length, hlength, h⟩ := bind_eq_ok h
    cases h
    cases hlength
    exact ⟨_, _, rfl, rfl, hreadable, nofun⟩

/-- How many parameters rules of a family expect. -/
def Family.arity : Family → Arity
  | required | fixed _ | literal => .zero
  | length bound | number bound | auto bound => bound.arity
  | digits | custom | remote => .one
  | digitsBetween => .two
  | list _ => .atLeastOne
  | matching _ => .oneOrTwo

/-- What a rule of the family makes of the parameters of a clause: the parameters of its
message, and its check. -/
inductive Entry.Makes (entry : Entry) (params : List String) :
    Family → List String → Check → Prop where
  | required (p : Pattern) : entry.Makes params .required [] (.test (.pattern p false true))
  | fixed {e : Pattern.Expr} {test : Test} (htest : patternTest entry.name e = .ok test) :
      entry.Makes params (.fixed e) [] (.test test)
  | length {bound : Bound} {test : Test}
      (htest : lengthTest entry.name bound params = .ok test) :
      entry.Makes params (.length bound) params (.test test)
  | number {bound : Bound} {test : Test}
      (htest : numberTest entry.name bound params = .ok test) :
      entry.Makes params (.number bound) params (.test test)
  | auto {bound : Bound} {check : Check} (hcheck : autoCheck entry bound params = .ok check) :
      entry.Makes params (.auto bound) params check
  | digits {test : Test} (htest : digitsTest entry.name params = .ok test) :
      entry.Makes params .digits params (.test test)
  | digitsBetween {test : Test} (htest : digitsTest entry.name params = .ok test) :
      entry.Makes params .digitsBetween params (.test test)
  | list (negated : Bool) (p : Pattern) :
      entry.Makes params (.list negated) [", ".intercalate params]
        (.test (.pattern p negated false))
  | matching (operator : Operator) (label : String) :
      entry.Makes params (.matching operator) [label]
        (.matching ⟨params.headD "", label, operator⟩)
  | custom : entry.Makes params .custom [] (.callback .custom (params.headD ""))
  | remote : entry.Makes params .remote [] (.callback .remote (params.headD ""))
  | literal (source : String) (p : Pattern) :
      entry.Makes params .literal [source] (.test (.pattern p false false))

/-- A rule of the table is built of as many parameters as its family expects, into what the
family makes of them. -/
theorem makes_of_build {entry : Entry} {clause : Clause} {literal : Option LiteralPattern}
    {v : Validator} (h : entry.build clause literal = .ok v) :
    entry.family.arity.admits clause.params.length = true ∧ v.key = entry.key ∧
      entry.Makes clause.params entry.family v.params v.check := by
  unfold Entry.build at h
  dsimp only at h
  generalize entry.family = family at h ⊢
  cases family with
  | required | list =>
    obtain ⟨params, hparams, h⟩ := bind_eq_ok h
    obtain ⟨rfl, hadmits⟩ := of_expectParams hparams
    obtain ⟨p, -, h⟩ := bind_eq_ok h
    cases h
    exact ⟨hadmits, rfl, by constructor⟩
  | fixed | length | number | auto | digits | digitsBetween =>
    obtain ⟨params, hparams, h⟩ := bind_eq_ok h
    obtain ⟨rfl, hadmits⟩ := of_expectParams hparams
    obtain ⟨made, hmade, h⟩ := bind_eq_ok h
    cases h
    refine ⟨hadmits, rfl, ?_⟩
    constructor
    exact hmade
  | matching | custom | remote =>
    obtain ⟨params, hparams, h⟩ := bind_eq_ok h
    obtain ⟨rfl, hadmits⟩ := of_expectParams hparams
    cases h
    exact ⟨hadmits, rfl, by constructor⟩
  | literal =>
    obtain ⟨params, hparams, h⟩ := bind_eq_ok h
    obtain ⟨rfl, hadmits⟩ := of_expectParams hparams
    cases literal with
    | none => cases h
    | some literal =>
      obtain ⟨p, -, h⟩ := bind_eq_ok h
      cases h
      exact ⟨hadmits, rfl, by constructor⟩

/-- A rule of the table whose template fits its family builds sound validators. -/
theorem sound_of_build {entry : Entry} (hfits : Message.Fits entry.key entry.family.places)
    {clause : Clause} {literal : Option LiteralPattern} {v : Validator}
    (h : entry.build clause literal = .ok v) : v.Sound := by
  obtain ⟨hadmits, hkey, hmakes⟩ := makes_of_build h
  obtain ⟨rule, key, shown, alt, check⟩ := v
  dsimp only at hkey hmakes
  rw [← hkey] at hfits
  generalize entry.family = family at hadmits hmakes hfits
  cases hmakes with
  | required | list | literal => exact .of_keys_eq rfl hfits (List.forall_mem_singleton.2 trivial)
  | fixed htest =>
    exact .of_keys_eq rfl hfits (List.forall_mem_singleton.2 (readable_of_patternTest htest))
  | length htest =>
    rw [Family.places, ← admits_arity_iff.1 hadmits] at hfits
    exact .of_keys_eq rfl hfits (List.forall_mem_singleton.2 (readable_of_lengthTest htest))
  | number htest =>
    rw [Family.places, ← admits_arity_iff.1 hadmits] at hfits
    exact .of_keys_eq rfl hfits (List.forall_mem_singleton.2 (readable_of_numberTest htest))
  | @auto bound _ hcheck =>
    obtain ⟨length, number, rfl, hnumeric, hnumber, hlength⟩ := of_autoCheck hcheck
    have hnumericFits := fits_numericKey bound
    rw [← hnumeric, ← admits_arity_iff.1 hadmits] at hnumericFits
    rw [Family.places, ← admits_arity_iff.1 hadmits] at hfits
    cases length with
    | none =>
      exact ⟨by simp [Validator.keys, hfits, hnumericFits], by simp [Validator.tests, hnumber]⟩
    | some shape =>
      obtain ⟨hshape, hlength⟩ := hlength shape rfl
      exact ⟨by simp [Validator.keys, hfits, hnumericFits, hshape.trans hkey.symm],
        by simp [Validator.tests, hnumber, hlength]⟩
  | digits htest | digitsBetween htest =>
    rw [Family.places, ← beq_iff_eq.1 hadmits] at hfits
    exact .of_keys_eq rfl hfits (List.forall_mem_singleton.2 (readable_of_digitsTest htest))
  | matching | custom | remote => exact .of_keys_eq rfl hfits (List.forall_mem_nil _)

/-- A date rule is built of as many parameters as it has bounds, into a test with the pattern
of its format and a condition for each bound. -/
theorem of_buildDate {name : String} {format : Date.Format} {bound : Option Bound}
    {params : List String} {v : Validator} (h : buildDate name format bound params = .ok v) :
    ∃ p conditions, buildPattern name format.expr = .ok p ∧
      v = ⟨name, dateMessageKey format bound, params, none, .test (.date format p conditions)⟩ ∧
      params.length = datePlaces bound ∧
      bound.elim (.ok []) (boundConditions · (dateBound format name) params) = .ok conditions := by
  unfold buildDate at h
  dsimp only at h
  cases bound with
  | none =>
    obtain ⟨kept, hkept, h⟩ := bind_eq_ok h
    obtain ⟨rfl, hadmits⟩ := of_expectParams hkept
    obtain ⟨conditions, hconditions, h⟩ := bind_eq_ok h
    obtain ⟨p, hp, h⟩ := bind_eq_ok h
    cases hconditions
    cases h
    exact ⟨p, [], hp, rfl, beq_iff_eq.1 hadmits, rfl⟩
  | some bound =>
    obtain ⟨kept, hkept, h⟩ := bind_eq_ok h
    obtain ⟨rfl, hadmits⟩ := of_expectParams hkept
    obtain ⟨conditions, hconditions, h⟩ := bind_eq_ok h
    obtain ⟨p, hp, h⟩ := bind_eq_ok h
    cases h
    exact ⟨p, conditions, hp, rfl, admits_arity_iff.1 hadmits, hconditions⟩

theorem sound_of_buildDate {name : String} {format : Date.Format}
    (hformat : format ∈ Date.Format.all) {bound : Option Bound} (hbound : bound ≠ some .exact)
    {params : List String} {v : Validator} (h : buildDate name format bound params = .ok v) :
    v.Sound := by
  have hfits := fits_dateMessageKey hformat hbound
  obtain ⟨p, conditions, -, rfl, hlength, hconditions⟩ := of_buildDate h
  rw [← hlength] at hfits
  have hinstants : ∀ c ∈ conditions, (format.instant? c.bound).isSome = true := by
    cases bound with
    | none =>
      cases hconditions
      exact List.forall_mem_nil _
    | some bound => exact forall_of_boundConditions (fun _ _ => instant?_of_dateBound) hconditions
  exact .of_keys_eq rfl hfits (List.forall_mem_singleton.2 hinstants)

theorem sound_of_resolve {clause : Clause} {literal : Option LiteralPattern} {v : Validator}
    (h : clause.resolve literal = .ok v) : v.Sound := by
  unfold Clause.resolve at h
  dsimp only at h
  -- the text of the clause that is added in the end has no key
  split at h
  · rename_i entry hentry
    obtain ⟨built, hbuilt, h⟩ := bind_eq_ok h
    cases h
    have hsound : built.Sound :=
      sound_of_build (fits_of_mem_entries (List.mem_of_find?_eq_some hentry)) hbuilt
    exact ⟨hsound.fits, hsound.readable⟩
  · split at h
    · rename_i format bound hdate
      obtain ⟨built, hbuilt, h⟩ := bind_eq_ok h
      cases h
      obtain ⟨hformat, hbound⟩ := of_findDate hdate
      have hsound : built.Sound := sound_of_buildDate hformat hbound hbuilt
      exact ⟨hsound.fits, hsound.readable⟩
    · cases h

theorem sound_of_compile {rules : String} {compiled : Compiled}
    (h : compile rules = .ok compiled) : ∀ v ∈ compiled.validators, v.Sound := by
  unfold compile at h
  obtain ⟨chain, -, h⟩ := bind_eq_ok h
  obtain ⟨validators, hvalidators, h⟩ := bind_eq_ok h
  cases h
  intro v hmem
  obtain ⟨clause, -, hresolve⟩ := mem_of_mapM_eq_ok hvalidators v hmem
  exact sound_of_resolve hresolve

end Rule

end FieldRules
