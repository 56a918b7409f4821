import FieldRules.Evaluation
import FieldRules.Proofs.BoundConditions
import FieldRules.Proofs.DatePatterns

/-!
# Date rules and the calendar

The pattern of a format lets digits of other scripts, different separators and
the 31st of February pass.  Taking a text apart lets blanks around it and signs
pass.  A rule asks both, and what passes both is a text that writes an instant
of the calendar.

* `compare_eq_lt_iff`, `compare_eq_gt_iff`: instants are ordered by their components.
* `passes_date_iff`: the test accepts the texts of instants that exist and meet
  the conditions.
* `Rule.accepts_iff_writes`: a date rule accepts the texts of instants that exist
  and lie within its bounds.
-/

namespace FieldRules

open Date Rule Text

/-! ## The order of instants -/

namespace Date.DateTime

/-- Year, month, day, hour, minute and second. -/
def tuple (t : DateTime) : List Nat :=
  [t.year, t.month, t.day, t.hour, t.minute, t.second]

/-- The first component in which the instants differ is less in the first one. -/
def Before (a b : DateTime) : Prop :=
  List.Lex (· < ·) a.tuple b.tuple

variable {a b : DateTime}

theorem compare_eq_lt_iff : a.compare b = .lt ↔ a.Before b := by
  simp only [compare, Before, tuple, Ordering.then_eq_lt, List.cons_lex_cons_iff,
    Nat.compare_eq_lt, Nat.compare_eq_eq, List.not_lex_nil, and_false, or_false]

instance (a b : DateTime) : Decidable (a.Before b) :=
  decidable_of_iff _ compare_eq_lt_iff

theorem swap_compare (a b : DateTime) : (a.compare b).swap = b.compare a := by
  simp only [compare, Ordering.swap_then, Nat.compare_swap]

theorem compare_eq_gt_iff : a.compare b = .gt ↔ b.Before a := by
  rw [← compare_eq_lt_iff, ← swap_compare a b, Ordering.swap_eq_lt]

end Date.DateTime

/-! ## The test of a date rule -/

variable {f : Format} {p : Pattern} {conditions : List Condition} {bound : Option Bound}
  {t : DateTime}

theorem Date.Format.instant?_eq_some_iff {text : String} :
    f.instant? text = some t ↔ f.decompose text = some t ∧ t.isReal = true := by
  rw [instant?, Option.filter_eq_some_iff]

theorem year_of_mem_all (hformat : f ∈ Format.all) : f.order = .iso → f.year = .long := by
  have hall : ∀ f ∈ Format.all, f.order = .iso → f.year = .long := by decide
  exact hall f hformat

/-- A text is found by the pattern and taken apart into an instant that exists, just if
it writes such an instant. -/
theorem instant?_iff_writes (hformat : f ∈ Format.all) (hbuild : Pattern.build? f.expr = some p)
    (text : String) : p.occursIn text = true ∧ f.instant? text = some t ↔
      f.Writes text.toList t ∧ t.isReal = true := by
  have hiso := year_of_mem_all hformat
  rw [expr_eq_whole] at hbuild
  rw [Pattern.Expr.occursIn_iff_mem_words (isPlain_bodyExpr f) hbuild, Format.instant?_eq_some_iff,
    Format.decompose]
  constructor
  · rintro ⟨hwords, hdecompose, hreal⟩
    obtain ⟨d, htext, hrough⟩ := exists_rough_of_mem_words hwords
    rw [← htext, decomposeChars_eq_some_iff hiso hrough] at hdecompose
    exact ⟨⟨d, htext, hdecompose⟩, hreal⟩
  · rintro ⟨⟨d, htext, hspells⟩, hreal⟩
    rw [← htext]
    exact ⟨mem_words_of_spells hiso hspells hreal,
      (decomposeChars_eq_some_iff hiso hspells.rough).2 hspells, hreal⟩

/-- The instant is related to the bound of a condition as the condition says. -/
def Condition.Admits (c : Condition) (f : Format) (t : DateTime) : Prop :=
  ∃ bound, f.instant? c.bound = some bound ∧ c.operator.holds (t.compare bound) = true

theorem datePasses_eq_true_iff {text : String} : Test.datePasses f conditions text = true ↔
    ∃ t, f.instant? text = some t ∧ ∀ c ∈ conditions, c.Admits f t := by
  unfold Test.datePasses
  cases f.instant? text with
  | none => simp
  | some t => simp [Condition.Admits, Option.any_eq_true]

/-- The test accepts the texts of the instants that exist and meet its conditions. -/
theorem passes_date_iff (hformat : f ∈ Format.all) (hbuild : Pattern.build? f.expr = some p)
    (text : String) : (Test.date f p conditions).passes (some text) = true ↔
      ∃ t, f.Writes text.toList t ∧ t.isReal = true ∧ ∀ c ∈ conditions, c.Admits f t := by
  have hwrites := fun t => instant?_iff_writes (t := t) hformat hbuild text
  rw [Test.passes, Option.getD_some, Bool.and_eq_true, datePasses_eq_true_iff]
  constructor
  · rintro ⟨hoccurs, t, hinstant, hconditions⟩
    obtain ⟨htext, hreal⟩ := (hwrites t).1 ⟨hoccurs, hinstant⟩
    exact ⟨t, htext, hreal, hconditions⟩
  · rintro ⟨t, htext, hreal, hconditions⟩
    obtain ⟨hoccurs, hinstant⟩ := (hwrites t).2 ⟨htext, hreal⟩
    exact ⟨hoccurs, t, hinstant, hconditions⟩

/-! ## Bounds -/

/-- The text of the least bound among the parameters of a rule. -/
def leastBound : Option Bound → List String → Option String
  | some .min, lo :: _ => some lo
  | some .between, lo :: _ => some lo
  | _, _ => none

/-- The text of the greatest bound among the parameters of a rule. -/
def greatestBound : Option Bound → List String → Option String
  | some .max, hi :: _ => some hi
  | some .between, _ :: hi :: _ => some hi
  | _, _ => none

/-- The least bound is an instant that this one is not before, and the greatest one an
instant that is not before this one. -/
structure InBounds (f : Format) (bound : Option Bound) (params : List String) (t : DateTime) :
    Prop where
  least : ∀ lo ∈ leastBound bound params, ∃ a, f.instant? lo = some a ∧ ¬ t.Before a
  greatest : ∀ hi ∈ greatestBound bound params,
    ∃ b, f.instant? hi = some b ∧ ¬ b.Before t

theorem admits_ge_iff {raw : String} : (Condition.mk .ge (Text.trimmed raw)).Admits f t ↔
    ∃ a, f.instant? raw = some a ∧ ¬ t.Before a := by
  simp only [Condition.Admits, Format.instant?_trimmed, Operator.holds, bne_iff_ne, ne_eq,
    DateTime.compare_eq_lt_iff]

theorem admits_le_iff {raw : String} : (Condition.mk .le (Text.trimmed raw)).Admits f t ↔
    ∃ b, f.instant? raw = some b ∧ ¬ b.Before t := by
  simp only [Condition.Admits, Format.instant?_trimmed, Operator.holds, bne_iff_ne, ne_eq,
    DateTime.compare_eq_gt_iff]

namespace Rule

/-- The conditions of a date rule ask for its bounds. -/
theorem admits_iff_inBounds {bound : Bound} {params : List String} (hexact : bound ≠ .exact)
    (hlength : params.length = bound.places) :
    (∀ c ∈ bound.asks params, c.Admits f t) ↔ InBounds f (some bound) params t := by
  have hinBounds : InBounds f (some bound) params t ↔
      (∀ lo ∈ leastBound (some bound) params, ∃ a, f.instant? lo = some a ∧ ¬ t.Before a) ∧
        ∀ hi ∈ greatestBound (some bound) params,
          ∃ b, f.instant? hi = some b ∧ ¬ b.Before t :=
    ⟨fun h => ⟨h.least, h.greatest⟩, fun h => ⟨h.1, h.2⟩⟩
  rw [hinBounds]
  cases bound with
  | exact => exact absurd rfl hexact
  | min =>
    obtain ⟨lo, rfl⟩ := List.length_eq_one_iff.1 hlength
    simp [Bound.asks, leastBound, greatestBound, admits_ge_iff]
  | max =>
    obtain ⟨hi, rfl⟩ := List.length_eq_one_iff.1 hlength
    simp [Bound.asks, leastBound, greatestBound, admits_le_iff]
  | between =>
    obtain ⟨lo, hi, rfl⟩ := List.length_eq_two.1 hlength
    simp [Bound.asks, leastBound, greatestBound, admits_ge_iff, admits_le_iff]

/-- What a date rule is built into: a test with the pattern of its format. -/
theorem check_of_buildDate {name : String} {params : List String} {v : Validator}
    (hexact : bound ≠ some .exact) (h : buildDate name f bound params = .ok v) :
    ∃ p conditions, v.check = .test (.date f p conditions) ∧
      Pattern.build? f.expr = some p ∧
      ∀ t, (∀ c ∈ conditions, c.Admits f t) ↔ InBounds f bound params t := by
  have hpattern : ∀ {p}, buildPattern name f.expr = .ok p → Pattern.build? f.expr = some p := by
    intro p hp
    unfold buildPattern at hp
    split at hp
    · next hbuild =>
      cases hp
      exact hbuild
    · cases hp
  obtain ⟨p, conditions, hp, rfl, hlength, hconditions⟩ := of_buildDate h
  refine ⟨p, conditions, rfl, hpattern hp, fun t => ?_⟩
  cases bound with
  | none =>
    cases hconditions
    exact ⟨fun _ => ⟨nofun, nofun⟩, fun _ => List.forall_mem_nil _⟩
  | some bound =>
    obtain ⟨-, rfl⟩ :=
      (boundConditions_eq_ok_iff (fun _ _ => dateBound_eq_ok_iff) hlength).1 hconditions
    exact admits_iff_inBounds (fun heq => hexact (congrArg some heq)) hlength

/-- Every format has a rule without bounds and one for each kind of bounds. -/
theorem findDate_stem : ∀ format ∈ Format.all,
    findDate (normalize format.stem) = some (format, none) ∧
      ∀ row ∈ dateBounds, findDate (normalize (format.stem ++ row.2.1)) = some (format, row.1) := by
  decide +kernel

/-- No other rule has a keyword of a date rule. -/
theorem findEntry_eq_none_of_findDate {name : String} (h : findDate name = some (f, bound)) :
    findEntry name = none := by
  have hkeywords : ∀ entry ∈ entries, ∀ keyword ∈ entry.name :: entry.aliases,
      findDate keyword = none := by
    decide +kernel
  by_contra hsome
  obtain ⟨entry, hentry⟩ := Option.ne_none_iff_exists'.1 hsome
  obtain ⟨hmem, hname⟩ := of_findEntry hentry
  rw [hkeywords entry hmem name hname] at h
  cases h

/-- A date rule accepts exactly the texts that write an instant of the calendar in its
format, from their first character to their last, which lies within its bounds. -/
theorem accepts_iff_writes {clause : Clause} {literal : Option LiteralPattern} {v : Validator}
    (hdate : findDate (normalize clause.name) = some (f, bound))
    (hresolve : clause.resolve literal = .ok v) (text : String)
    (others : String → Option String) :
    v.passes? (some text) others = some true ↔
      ∃ t, f.Writes text.toList t ∧ t.isReal = true ∧ InBounds f bound clause.params t := by
  obtain ⟨hformat, hexact⟩ := of_findDate hdate
  unfold Clause.resolve at hresolve
  dsimp only at hresolve
  rw [findEntry_eq_none_of_findDate hdate, hdate] at hresolve
  obtain ⟨built, hbuilt, hresolve⟩ := bind_eq_ok hresolve
  cases hresolve
  obtain ⟨p, conditions, hcheck, hpattern, hbounds⟩ := check_of_buildDate hexact hbuilt
  rw [Validator.passes?]
  dsimp only
  rw [hcheck]
  dsimp only
  rw [Option.some.injEq, passes_date_iff hformat hpattern]
  simp only [hbounds]

theorem accepts_leap_day : ∃ v,
    Clause.resolve ⟨"dateIsoBetween", ["2012-01-01", "2012-12-31 23:59"], none⟩ none = .ok v ∧
      v.passes? (some "2012-2-29t9:30") (fun _ => none) = some true := by
  let clause : Clause := ⟨"dateIsoBetween", ["2012-01-01", "2012-12-31 23:59"], none⟩
  have hdate : findDate (normalize clause.name) = some (⟨.iso, .long⟩, some .between) := by
    decide +kernel
  have hsome : ((clause.resolve none).toOption).isSome = true := by decide +kernel
  obtain ⟨v, hresolve⟩ := exists_eq_ok_of_isSome hsome
  refine ⟨v, hresolve, (accepts_iff_writes hdate hresolve _ _).2 ?_⟩
  refine ⟨⟨2012, 2, 29, 9, 30, 0⟩, ?_, by decide, ?_, ?_⟩
  · have hyear : IsNumeral [4] ['2', '0', '1', '2'] 2012 := ⟨by decide, by simp, by decide⟩
    have hmonth : IsNumeral [1, 2] ['2'] 2 := ⟨by decide, by simp, by decide⟩
    have hday : IsNumeral [1, 2] ['2', '9'] 29 := ⟨by decide, by simp, by decide⟩
    have hhour : IsNumeral [1, 2] ['9'] 9 := ⟨by decide, by simp, by decide⟩
    have hminute : IsNumeral [2] ['3', '0'] 30 := ⟨by decide, by simp, by decide⟩
    refine ⟨⟨['2', '0', '1', '2'], ['2'], ['2', '9'], '-', '-', some ⟨'t', ['9'], ['3', '0'], none⟩⟩,
      by decide +kernel, ⟨by decide, rfl, .inl ⟨nofun, hyear⟩, hmonth, hday, ?_⟩⟩
    exact ⟨by decide, hhour, hminute, rfl⟩
  · rintro lo ⟨⟩
    exact ⟨⟨2012, 1, 1, 0, 0, 0⟩, by decide +kernel, by decide⟩
  · rintro hi ⟨⟩
    exact ⟨⟨2012, 12, 31, 23, 59, 0⟩, by decide +kernel, by decide⟩

end Rule

end FieldRules
