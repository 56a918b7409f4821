import FieldRules.Proofs.DateBounds
import FieldRules.Proofs.NumberBounds
import FieldRules.Proofs.NumberTexts

/-!
# Ranges whose bounds are in the wrong order

A rule with two bounds reads them as counts, as numbers or as dates, and a rule with two
shapes as counts and as numbers.  Only the rules that take them for counts look at their
order.

* `rangeReadings`, `RangeReading.Reversed`: how a rule reads its bounds, and when they are
  then in the wrong order.
* `reversed_count_of_number`: counts in the wrong order as numbers are so as counts.
* `resolve_of_takesCounts`: such a range is refused where the bounds are taken for counts.
* `exists_resolve_of_reversed`: elsewhere it becomes a validator that nothing passes.
* `compile_of_reversed`: what becomes of a chain with such a range.
-/

namespace FieldRules

open Date Number

/-- No value passes, whatever the other fields hold. -/
def Validator.PassesNothing (v : Validator) : Prop :=
  ∀ value others, v.passes? value others = some false

namespace Rule

/-! ## How bounds are read -/

/-- What two bounds are taken for. -/
inductive RangeReading where
  | count
  | number
  | date (format : Format)
  deriving DecidableEq, Repr

/-- How rules of a family read two bounds. -/
def Family.rangeReadings : Family → List RangeReading
  | .length .between | .digitsBetween => [.count]
  | .number .between => [.number]
  | .auto .between => [.count, .number]
  | _ => []

/-- How the rule that a keyword names reads two bounds. -/
def rangeReadings (keyword : String) : List RangeReading :=
  match findEntry (normalize keyword) with
  | some entry => entry.family.rangeReadings
  | none =>
    match findDate (normalize keyword) with
    | some (format, some .between) => [.date format]
    | _ => []

/-- Both bounds are well formed in the reading, and the upper one lies below the lower one. -/
def RangeReading.Reversed : RangeReading → (lo hi : String) → Prop
  | count, lo, hi => ∃ a b, count? lo = some a ∧ count? hi = some b ∧ b < a
  | number, lo, hi => ∃ x y, Number.parse lo = some x ∧ Number.parse hi = some y ∧
      y.units < x.units
  | date f, lo, hi => ∃ s t, f.instant? lo = some s ∧ f.instant? hi = some t ∧ t.Before s

/-- The rule takes the two bounds for counts. -/
def TakesCounts (keyword lo hi : String) : Prop :=
  .count ∈ rangeReadings keyword ∧ (count? lo).isSome = true ∧ (count? hi).isSome = true

variable {rule raw lo hi keyword : String} {n : Nat} {reading : RangeReading} {f : Format}
  {clause : Clause} {literal : Option LiteralPattern} {entry : Entry} {v : Validator}

/-- The keywords whose rules read two bounds are those that are written with two. -/
theorem rangeReadings_ne_nil_iff (keyword : String) :
    rangeReadings keyword ≠ [] ↔ (rangeSyntax keyword).isSome = true := by
  have hfamily : ∀ family : Family, family.rangeReadings ≠ [] ↔ family.isRange = true := by
    intro family
    cases family with
    | length bound | number bound | auto bound => cases bound <;> decide
    | digitsBetween => decide
    | _ => exact iff_of_false (fun hne => hne rfl) Bool.false_ne_true
  unfold rangeReadings rangeSyntax
  dsimp only
  cases findEntry (normalize keyword) with
  | some entry =>
    dsimp only
    rw [hfamily]
    cases entry.family.isRange <;> simp
  | none =>
    rcases findDate (normalize keyword) with _ | ⟨f, _ | bound⟩
    · simp
    · simp
    · cases bound <;> simp

/-! ## Counts as numbers -/

theorem countLimit_le_overflowLimit : Text.countLimit ≤ Binary64.overflowLimit := by
  decide +kernel

/-- A bound that is a count is a number too. -/
theorem parse_of_count? (hcount : count? raw = some n) :
    Number.parse raw = some ⟨Binary64.nearest (n * Binary64.unitsPerOne) 1⟩ :=
  Number.parse_of_looseNumeral countLimit_le_overflowLimit
    (Text.unsigned?_iff_looseNumeral.1 hcount)

/-- Rounding does not put counts in the wrong order. -/
theorem reversed_count_of_number (hlo : (count? lo).isSome = true)
    (hhi : (count? hi).isSome = true) (hreversed : RangeReading.number.Reversed lo hi) :
    RangeReading.count.Reversed lo hi := by
  obtain ⟨a, ha⟩ := Option.isSome_iff_exists.1 hlo
  obtain ⟨b, hb⟩ := Option.isSome_iff_exists.1 hhi
  obtain ⟨x, y, hx, hy, hless⟩ := hreversed
  rw [parse_of_count? ha] at hx
  rw [parse_of_count? hb] at hy
  cases hx
  cases hy
  refine ⟨a, b, ha, hb, ?_⟩
  by_contra hle
  rw [Nat.not_lt] at hle
  have hunits : a * Binary64.unitsPerOne ≤ b * Binary64.unitsPerOne :=
    Nat.mul_le_mul_right _ hle
  exact absurd (Binary64.nearest_mono Nat.one_pos hunits) (Nat.not_le.2 (Int.ofNat_lt.1 hless))

/-! ## Ranges of counts -/

/-- The error about a range in the wrong order. -/
def reversedError (rule hi : String) : ConfigError :=
  .invalidBound rule hi .reversed

theorem countRange_of_reversed (hreversed : RangeReading.count.Reversed lo hi) :
    countRange rule lo hi = .error (reversedError rule hi) := by
  obtain ⟨a, b, ha, hb, hless⟩ := hreversed
  rw [countRange_eq ha hb, if_neg (Nat.not_le.2 hless)]
  rfl

theorem lengthTest_of_reversed (hreversed : RangeReading.count.Reversed lo hi) :
    lengthTest rule .between [lo, hi] = .error (reversedError rule hi) := by
  unfold lengthTest
  rw [lengthBounds, countRange_of_reversed hreversed]
  rfl

theorem digitsTest_of_reversed (hreversed : RangeReading.count.Reversed lo hi) :
    digitsTest rule [lo, hi] = .error (reversedError rule hi) := by
  unfold digitsTest
  dsimp only
  rw [countRange_of_reversed hreversed]
  rfl

/-- A rule that takes its bounds for counts finds them in the wrong order. -/
theorem check?_of_reversed (hcounts : .count ∈ entry.family.rangeReadings)
    (hreversed : RangeReading.count.Reversed lo hi) :
    entry.check? [lo, hi] = some (.two, .error (reversedError entry.name hi)) := by
  unfold Family.rangeReadings at hcounts
  unfold Entry.check?
  split at hcounts
  · next hfamily =>
    rw [hfamily]
    dsimp only
    rw [lengthTest_of_reversed hreversed]
    rfl
  · next hfamily =>
    rw [hfamily]
    dsimp only
    rw [digitsTest_of_reversed hreversed]
    rfl
  · simp at hcounts
  · next hfamily =>
    obtain ⟨a, b, ha, hb, -⟩ := id hreversed
    have hnumber : numberTest entry.name .between [lo, hi] =
        .ok (.number (Bound.between.asks [lo, hi])) := by
      rw [numberTest_eq_ok_iff rfl]
      simp [parse_of_count? ha, parse_of_count? hb]
    have hall : allCounts entry.name [lo, hi] = true := by
      rw [allCounts_eq_true_iff]
      simp [ha, hb]
    rw [hfamily]
    dsimp only
    unfold autoCheck
    rw [hnumber, hall]
    change some (Arity.two, (lengthTest entry.name .between [lo, hi]).map _ >>= _) = _
    rw [lengthTest_of_reversed hreversed]
    rfl
  · simp at hcounts

/-! ## Ranges that nothing lies in -/

theorem passesNothing_of_test {test : Test} (hcheck : v.check = .test test)
    (htest : ∀ value, test.passes value = false) : v.PassesNothing := by
  intro value others
  rw [passes?_of_test hcheck, htest]

/-- Without a shape for lengths, the numeric one decides. -/
theorem passesNothing_of_auto {shape : Shape} (hcheck : v.check = .auto none shape)
    (hshape : ∀ value, shape.test.passes value = false) : v.PassesNothing := by
  intro value others
  unfold Validator.passes? chooseShape
  rw [hcheck]
  dsimp only
  rw [Option.getD_none, ite_self, hshape]

/-- No number lies between bounds in the wrong order. -/
theorem numberTest_passes_of_reversed (hreversed : RangeReading.number.Reversed lo hi)
    (value : Option String) :
    (Test.number (Bound.between.asks [lo, hi])).passes value = false := by
  obtain ⟨x, y, hx, hy, hless⟩ := hreversed
  change Test.numberPasses (Bound.between.asks [lo, hi]) (value.getD "") = false
  rw [Bool.eq_false_iff, Ne, numberPasses_eq_true_iff]
  rintro ⟨z, -, hadmits⟩
  have hplaces : [lo, hi].length = Bound.between.places := rfl
  obtain ⟨least, greatest, hleast, hgreatest, hlow, hhigh⟩ :=
    (admitsNumber_iff_allowsNumber hplaces).1 hadmits
  rw [hx] at hleast
  rw [hy] at hgreatest
  cases hleast
  cases hgreatest
  omega

/-- No instant lies between bounds in the wrong order. -/
theorem dateTest_passes_of_reversed (hreversed : (RangeReading.date f).Reversed lo hi)
    (p : Pattern) (value : Option String) :
    (Test.date f p (Bound.between.asks [lo, hi])).passes value = false := by
  obtain ⟨s, t, hs, ht, hbefore⟩ := hreversed
  have hpasses : Test.datePasses f (Bound.between.asks [lo, hi]) (value.getD "") = false := by
    rw [Bool.eq_false_iff, Ne, datePasses_eq_true_iff]
    rintro ⟨u, -, hadmits⟩
    obtain ⟨least, hleast, hlow⟩ :=
      admits_ge_iff.1 (hadmits ⟨.ge, Text.trimmed lo⟩ (by simp [Bound.asks]))
    obtain ⟨greatest, hgreatest, hhigh⟩ :=
      admits_le_iff.1 (hadmits ⟨.le, Text.trimmed hi⟩ (by simp [Bound.asks]))
    rw [hs] at hleast
    rw [ht] at hgreatest
    cases hleast
    cases hgreatest
    exact hbefore.not_between.elim hlow hhigh
  change (p.occursIn (value.getD "") && Test.datePasses f _ (value.getD "")) = false
  rw [hpasses, Bool.and_false]

/-! ## Clauses -/

theorem of_count_mem (hmem : .count ∈ rangeReadings keyword) :
    ∃ entry, findEntry (normalize keyword) = some entry ∧
      .count ∈ entry.family.rangeReadings := by
  unfold rangeReadings at hmem
  split at hmem
  · next entry hentry => exact ⟨entry, hentry, hmem⟩
  · split at hmem <;> simp at hmem

theorem of_number_mem (hmem : .number ∈ rangeReadings keyword) :
    ∃ entry, findEntry (normalize keyword) = some entry ∧
      (entry.family = .number .between ∨ entry.family = .auto .between) := by
  unfold rangeReadings at hmem
  split at hmem
  · next entry hentry =>
    refine ⟨entry, hentry, ?_⟩
    unfold Family.rangeReadings at hmem
    split at hmem
    · simp at hmem
    · simp at hmem
    · next hfamily => exact .inl hfamily
    · next hfamily => exact .inr hfamily
    · simp at hmem
  · split at hmem <;> simp at hmem

theorem of_date_mem (hmem : .date f ∈ rangeReadings keyword) :
    findDate (normalize keyword) = some (f, some .between) := by
  unfold rangeReadings at hmem
  split at hmem
  · unfold Family.rangeReadings at hmem
    split at hmem <;> simp at hmem
  · split at hmem
    · next hdate =>
      obtain rfl : f = _ := by simpa using hmem
      exact hdate
    · simp at hmem

/-- A clause whose rule takes the bounds for counts is refused. -/
theorem resolve_of_takesCounts (literal : Option LiteralPattern)
    (hparams : clause.params = [lo, hi])
    (hreading : reading ∈ rangeReadings clause.name) (hreversed : reading.Reversed lo hi)
    (htakes : TakesCounts clause.name lo hi) :
    ∃ entry, findEntry (normalize clause.name) = some entry ∧
      clause.resolve literal = .error (reversedError entry.name hi) := by
  obtain ⟨hcounts, hlo, hhi⟩ := htakes
  obtain ⟨entry, hentry, hcounts⟩ := of_count_mem hcounts
  have hcount : RangeReading.count.Reversed lo hi := by
    cases reading with
    | count => exact hreversed
    | number => exact reversed_count_of_number hlo hhi hreversed
    | date f =>
      rw [findEntry_eq_none_of_findDate (of_date_mem hreading)] at hentry
      cases hentry
  have hcheck := check?_of_reversed hcounts hcount
  rw [← hparams] at hcheck
  obtain ⟨shown, hbuild⟩ := build_of_check? literal hcheck (by rw [hparams]; rfl)
  refine ⟨entry, hentry, ?_⟩
  rw [resolve_eq_of_findEntry hentry, hbuild]
  rfl

/-- A rule that does not take the bounds for counts compares numbers with them. -/
theorem check?_of_reversed_number
    (hfamily : entry.family = .number .between ∨
      entry.family = .auto .between ∧ allCounts entry.name [lo, hi] = false)
    (hreversed : RangeReading.number.Reversed lo hi) :
    ∃ check, entry.check? [lo, hi] = some (.two, .ok check) ∧
      ∀ v : Validator, v.check = check → v.PassesNothing := by
  have hnumber : numberTest entry.name .between [lo, hi] =
      .ok (.number (Bound.between.asks [lo, hi])) := by
    obtain ⟨x, y, hx, hy, -⟩ := hreversed
    rw [numberTest_eq_ok_iff rfl]
    simp [hx, hy]
  have hpasses := numberTest_passes_of_reversed hreversed
  unfold Entry.check?
  rcases hfamily with hfamily | ⟨hfamily, hcounts⟩
  · refine ⟨.test (.number _), ?_, fun v hv => passesNothing_of_test hv hpasses⟩
    rw [hfamily]
    dsimp only
    rw [hnumber]
    rfl
  · refine ⟨.auto none ⟨Bound.between.numericKey, .number _⟩, ?_,
      fun v hv => passesNothing_of_auto hv hpasses⟩
    rw [hfamily]
    dsimp only
    unfold autoCheck
    rw [hnumber, hcounts]
    rfl

/-- A clause of another rule with bounds in the wrong order becomes a validator that nothing
passes. -/
theorem exists_resolve_of_reversed (literal : Option LiteralPattern)
    (hparams : clause.params = [lo, hi])
    (hreading : reading ∈ rangeReadings clause.name) (hreversed : reading.Reversed lo hi)
    (htakes : ¬ TakesCounts clause.name lo hi) :
    ∃ v, clause.resolve literal = .ok v ∧ v.PassesNothing := by
  cases reading with
  | count =>
    obtain ⟨a, b, ha, hb, -⟩ := hreversed
    exact absurd ⟨hreading, by simp [ha], by simp [hb]⟩ htakes
  | number =>
    obtain ⟨entry, hentry, hfamily⟩ := of_number_mem hreading
    -- bounds of a rule with two shapes that are counts would be taken for counts
    have hcounts : entry.family = .auto .between → allCounts entry.name [lo, hi] = false := by
      intro hauto
      rw [Bool.eq_false_iff, Ne, allCounts_eq_true_iff]
      intro hall
      refine htakes ⟨?_, hall lo (by simp), hall hi (by simp)⟩
      unfold rangeReadings
      rw [hentry]
      dsimp only
      rw [hauto]
      exact List.mem_cons_self
    obtain ⟨check, hcheck, hnothing⟩ := check?_of_reversed_number
      (hfamily.imp_right fun hauto => ⟨hauto, hcounts hauto⟩) hreversed
    rw [← hparams] at hcheck
    obtain ⟨shown, hbuild⟩ := build_of_check? literal hcheck (by rw [hparams]; rfl)
    refine ⟨_, by rw [resolve_eq_of_findEntry hentry, hbuild]; rfl, hnothing _ rfl⟩
  | date f =>
    have hdate := of_date_mem hreading
    have hinstants : ∀ raw ∈ [lo, hi], (f.instant? raw).isSome = true := by
      obtain ⟨s, t, hs, ht, -⟩ := hreversed
      simp [hs, ht]
    obtain ⟨p, hp⟩ :=
      Option.isSome_iff_exists.1 (isSome_build?_of_mem_all f (of_findDate hdate).1)
    have hplaces : [lo, hi].length = Bound.between.places := rfl
    have hbuild := (buildDate_eq_ok_iff (normalize clause.name) f hplaces).2
      ⟨hinstants, p, hp, rfl⟩
    refine ⟨_, by rw [resolve_eq_of_findDate literal hdate, hparams, hbuild]; rfl, ?_⟩
    exact passesNothing_of_test rfl (dateTest_passes_of_reversed hreversed p)

/-! ## Chains -/

variable {rules : String} {chain : Chain} {earlier later : List Clause} {before : List Validator}

/-- A chain is compiled clause by clause. -/
theorem compile_eq_of_clauses (hparse : Chain.parse rules = .ok chain)
    (hclauses : chain.clauses = earlier ++ clause :: later)
    (hearlier : earlier.mapM (·.resolve chain.literal) = .ok before) :
    compile rules = do
      let v ← clause.resolve chain.literal
      let after ← later.mapM fun next : Clause => next.resolve chain.literal
      return ⟨before ++ v :: after, chain.required⟩ := by
  unfold compile
  rw [hparse]
  change (chain.clauses.mapM (·.resolve chain.literal) >>= _) = _
  rw [hclauses, List.mapM_append, hearlier, List.mapM_cons]
  cases clause.resolve chain.literal with
  | error e => rfl
  | ok v =>
    cases List.mapM (fun next : Clause => next.resolve chain.literal) later <;> rfl

/-- A range whose bounds are in the wrong order, in a chain whose clauses before it are taken.
The chain is refused with the error about the order if the rule takes the bounds for counts.
Otherwise it is compiled as if the bounds were in order, into a chain with a validator that
no value passes. -/
theorem compile_of_reversed (hparse : Chain.parse rules = .ok chain)
    (hclauses : chain.clauses = earlier ++ clause :: later)
    (hearlier : earlier.mapM (·.resolve chain.literal) = .ok before)
    (hparams : clause.params = [lo, hi]) (hreading : reading ∈ rangeReadings clause.name)
    (hreversed : reading.Reversed lo hi) :
    (TakesCounts clause.name lo hi → ∃ entry, findEntry (normalize clause.name) = some entry ∧
      compile rules = .error (.invalidBound entry.name hi .reversed)) ∧
    (¬ TakesCounts clause.name lo hi → ∃ v : Validator, v.PassesNothing ∧
      compile rules = (later.mapM fun next : Clause => next.resolve chain.literal).map fun after =>
        ⟨before ++ v :: after, chain.required⟩) := by
  have hcompile := compile_eq_of_clauses hparse hclauses hearlier
  constructor
  · intro htakes
    obtain ⟨entry, hentry, hresolve⟩ := resolve_of_takesCounts chain.literal hparams
      hreading hreversed htakes
    refine ⟨entry, hentry, ?_⟩
    rw [hcompile, hresolve]
    rfl
  · intro htakes
    obtain ⟨v, hresolve, hnothing⟩ := exists_resolve_of_reversed chain.literal
      hparams hreading hreversed htakes
    refine ⟨v, hnothing, ?_⟩
    rw [hcompile, hresolve]
    cases List.mapM (fun next : Clause => next.resolve chain.literal) later <;> rfl

/-- A range of digits and one of days. -/
theorem compile_of_reversed_five_two :
    compile "digitsBetween:5,2" = .error (.invalidBound "digits_between" "2" .reversed) ∧
      ∃ v : Validator, v.PassesNothing ∧
        compile "date_iso_between:2012-05-25,2012-5-24" = .ok ⟨[v], false⟩ := by
  constructor
  · let clause : Clause := ⟨"digitsBetween", ["5", "2"], none⟩
    have hparse : Chain.parse "digitsBetween:5,2" = .ok ⟨[clause], none, false⟩ := by
      decide +kernel
    have hreversed : RangeReading.count.Reversed "5" "2" :=
      ⟨5, 2, by decide +kernel, by decide +kernel, by decide⟩
    have hclauses : [clause] = [] ++ clause :: [] := rfl
    obtain ⟨entry, hentry, hcompile⟩ := (compile_of_reversed hparse hclauses rfl rfl
      (by decide +kernel) hreversed).1 ⟨by decide +kernel, by decide +kernel, by decide +kernel⟩
    rw [hcompile]
    have hfound : findEntry (normalize "digitsBetween") =
        some ⟨"digits_between", [], .digitsBetween, "INVALID_DIGITS_BETWEEN"⟩ := rfl
    cases hfound.symm.trans hentry
    rfl
  · let clause : Clause := ⟨"date_iso_between", ["2012-05-25", "2012-5-24"], none⟩
    have hparse : Chain.parse "date_iso_between:2012-05-25,2012-5-24" =
        .ok ⟨[clause], none, false⟩ := by
      decide +kernel
    have hreversed : (RangeReading.date ⟨.iso, .long⟩).Reversed "2012-05-25" "2012-5-24" :=
      ⟨⟨2012, 5, 25, 0, 0, 0⟩, ⟨2012, 5, 24, 0, 0, 0⟩, by decide +kernel, by decide +kernel,
        by decide⟩
    have hother : ¬ TakesCounts "date_iso_between" "2012-05-25" "2012-5-24" :=
      fun htakes => absurd htakes.1 (by decide +kernel)
    have hclauses : [clause] = [] ++ clause :: [] := rfl
    exact (compile_of_reversed hparse hclauses rfl rfl (by decide +kernel) hreversed).2 hother

/-- A range of numbers in the wrong order is compiled. -/
theorem not_forall_refuses_reversed :
    ¬ ∀ {rules : String} {chain : Chain} {clause : Clause} {earlier later : List Clause}
      {before : List Validator} {lo hi : String} {reading : RangeReading},
      Chain.parse rules = .ok chain → chain.clauses = earlier ++ clause :: later →
      earlier.mapM (·.resolve chain.literal) = .ok before → clause.params = [lo, hi] →
      reading ∈ rangeReadings clause.name → reading.Reversed lo hi →
      ∃ rule raw fault, compile rules = .error (.invalidBound rule raw fault) := by
  intro hall
  let clause : Clause := ⟨"between_num", ["10", "1"], none⟩
  have hparse : Chain.parse "between_num:10,1" = .ok ⟨[clause], none, false⟩ := by
    decide +kernel
  have hreversed : RangeReading.number.Reversed "10" "1" := by
    refine ⟨⟨10 * Binary64.unitsPerOne⟩, ⟨Binary64.unitsPerOne⟩, ?_, ?_, ?_⟩
    all_goals decide +kernel
  have hclauses : [clause] = [] ++ clause :: [] := rfl
  obtain ⟨rule, raw, fault, herror⟩ := hall hparse hclauses rfl rfl (by decide +kernel) hreversed
  have hcompiled : ((compile "between_num:10,1").toOption).isSome = true := by decide +kernel
  rw [herror] at hcompiled
  cases hcompiled

end Rule

end FieldRules
