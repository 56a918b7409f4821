import Mathlib.Data.List.Lex
import FieldRules.Proofs.BuiltClauses
import FieldRules.Proofs.CalendarDates
import FieldRules.Proofs.ReadDates

/-!
# Bounds of date rules

A date rule takes a bound apart and asks no more of it, while a value must also match the
pattern of the format.

* `instant?_isSome_iff_reads`: the texts that are bounds.
* `buildDate_eq_ok_iff`: a rule is built just if its bounds are instants.
* `accepts_bound_iff_writes`: which bounds a rule accepts as values.
-/

namespace FieldRules

open Date Rule Text

variable {f : Format} {a b t : DateTime}

/-! ## The order of instants -/

namespace Date.DateTime

theorem before_iff_lt : a.Before b ↔ a.tuple < b.tuple :=
  Iff.rfl

theorem not_before_self (t : DateTime) : ¬ t.Before t := by
  rw [before_iff_lt]
  exact lt_irrefl _

/-- Nothing lies between two instants in the wrong order. -/
theorem Before.not_between (hbefore : b.Before a) : t.Before a ∨ b.Before t := by
  simp only [before_iff_lt] at hbefore ⊢
  rcases lt_or_ge t.tuple a.tuple with hless | hle
  · exact .inl hless
  · exact .inr (hbefore.trans_le hle)

end Date.DateTime

/-! ## Rules with bounds that are instants -/

theorem Date.Format.instant?_isSome_iff_reads (hformat : f ∈ Format.all) {text : String} :
    (f.instant? text).isSome = true ↔ ∃ t, f.Reads text.toList t ∧ t.isReal = true := by
  simp only [Option.isSome_iff_exists, Format.instant?_eq_some_iff, Format.decompose,
    decomposeChars_iff_reads (year_of_mem_all hformat)]

theorem isSome_build?_of_mem_all : ∀ f ∈ Format.all, (Pattern.build? f.expr).isSome = true := by
  decide +kernel

namespace Rule

variable {name : String} {bound : Bound} {params : List String} {clause : Clause}
  {literal : Option LiteralPattern} {v : Validator} {raw : String}

/-- A date rule with the right number of bounds is built just if these are instants, and then
tests the pattern of its format and its bounds. -/
theorem buildDate_eq_ok_iff (name : String) (f : Format) (hparams : params.length = bound.places) :
    buildDate name f (some bound) params = .ok v ↔
      (∀ raw ∈ params, (f.instant? raw).isSome = true) ∧ ∃ p, Pattern.build? f.expr = some p ∧
        v = ⟨name, dateMessageKey f (some bound), params, none,
          .test (.date f p (bound.asks params))⟩ := by
  have hconditions : ∀ conditions, boundConditions bound (dateBound f name) params =
      .ok conditions ↔ (∀ raw ∈ params, (f.instant? raw).isSome = true) ∧
        conditions = bound.asks params :=
    fun _ => boundConditions_eq_ok_iff (fun _ _ => dateBound_eq_ok_iff) hparams
  unfold buildDate
  dsimp only
  rw [expectParams_eq_ok (admits_arity_iff.2 hparams)]
  change (boundConditions bound (dateBound f name) params >>= _) = _ ↔ _
  constructor
  · intro h
    obtain ⟨conditions, hread, h⟩ := bind_eq_ok h
    obtain ⟨hinstants, rfl⟩ := (hconditions conditions).1 hread
    obtain ⟨p, hp, h⟩ := bind_eq_ok h
    cases h
    exact ⟨hinstants, p, buildPattern_eq_ok_iff.1 hp, rfl⟩
  · rintro ⟨hinstants, p, hp, rfl⟩
    rw [(hconditions _).2 ⟨hinstants, rfl⟩]
    change (buildPattern name f.expr >>= _) = _
    rw [buildPattern_eq_ok_iff.2 hp]
    rfl

/-- A clause of a date rule becomes what the rule is built into, with its message text. -/
theorem resolve_eq_of_findDate {bound : Option Bound} (literal : Option LiteralPattern)
    (hdate : findDate (normalize clause.name) = some (f, bound)) :
    clause.resolve literal =
      (buildDate (normalize clause.name) f bound clause.params).map fun v =>
        { v with alt := v.alt.or clause.alt } := by
  unfold Clause.resolve
  dsimp only
  rw [findEntry_eq_none_of_findDate hdate, hdate]
  dsimp only
  cases buildDate (normalize clause.name) f bound clause.params <;> rfl

/-- What one bound asks is met by the bound itself. -/
theorem admits_self (hbound : bound = .min ∨ bound = .max) (hinstant : f.instant? raw = some t) :
    ∀ c ∈ bound.asks [raw], c.Admits f t := by
  have hself : ∃ s, f.instant? raw = some s ∧ ¬ t.Before s :=
    ⟨t, hinstant, DateTime.not_before_self t⟩
  have hself' : ∃ s, f.instant? raw = some s ∧ ¬ s.Before t :=
    ⟨t, hinstant, DateTime.not_before_self t⟩
  rcases hbound with rfl | rfl
  · exact List.forall_mem_singleton.2 (admits_ge_iff.2 hself)
  · exact List.forall_mem_singleton.2 (admits_le_iff.2 hself')

/-- A date rule with one bound takes every text for it that is read as an instant of the
calendar.  It accepts the bound as a value just if the text also writes that instant in the
format. -/
theorem accepts_bound_iff_writes (literal : Option LiteralPattern)
    (hdate : findDate (normalize clause.name) = some (f, some bound))
    (hbound : bound = .min ∨ bound = .max) (hparams : clause.params = [raw]) :
    ((∃ v, clause.resolve literal = .ok v) ↔ ∃ t, f.Reads raw.toList t ∧ t.isReal = true) ∧
      ∀ v, clause.resolve literal = .ok v → ∀ others : String → Option String,
        (v.passes? (some raw) others = some true ↔ ∃ t, f.Writes raw.toList t) := by
  obtain ⟨hformat, -⟩ := of_findDate hdate
  have hiso := year_of_mem_all hformat
  have hplaces : [raw].length = bound.places := by rcases hbound with rfl | rfl <;> rfl
  have hbuild := fun v => buildDate_eq_ok_iff (v := v) (normalize clause.name) f hplaces
  have hresolve := resolve_eq_of_findDate literal hdate
  rw [hparams] at hresolve
  constructor
  · rw [← Format.instant?_isSome_iff_reads hformat, hresolve]
    constructor
    · rintro ⟨v, hv⟩
      obtain ⟨built, hbuilt, -⟩ := map_eq_ok hv
      exact ((hbuild built).1 hbuilt).1 raw List.mem_cons_self
    · intro hinstant
      obtain ⟨p, hp⟩ := Option.isSome_iff_exists.1 (isSome_build?_of_mem_all f hformat)
      have hbuilt := (hbuild _).2 ⟨List.forall_mem_singleton.2 hinstant, p, hp, rfl⟩
      exact ⟨_, by rw [hbuilt]; rfl⟩
  · intro v hv others
    rw [hresolve] at hv
    obtain ⟨built, hbuilt, rfl⟩ := map_eq_ok hv
    obtain ⟨hinstant, p, hp, rfl⟩ := (hbuild built).1 hbuilt
    obtain ⟨s, hreads, hreal⟩ :=
      (Format.instant?_isSome_iff_reads hformat).1 (hinstant raw List.mem_cons_self)
    rw [passes?_of_test rfl, Option.some.injEq, passes_date_iff hformat hp]
    constructor
    · rintro ⟨t, hwrites, -⟩
      exact ⟨t, hwrites⟩
    · rintro ⟨t, hwrites⟩
      -- a text writes no other instant than it is read as
      obtain rfl : t = s := (hwrites.reads hiso).unique hiso hreads
      have hself : f.instant? raw = some t :=
        Format.instant?_eq_some_iff.2 ⟨(decomposeChars_iff_reads hiso).2 hreads, hreal⟩
      exact ⟨t, hwrites, hreal, admits_self hbound hself⟩

/-- A bound in another spelling of its keyword, with a time. -/
theorem accepts_bound_half_past_nine : ∃ v,
    Clause.resolve ⟨"dateUsShortMax", ["5/25/12 9:30"], none⟩ none = .ok v ∧
      v.passes? (some "5/25/12 9:30") (fun _ => none) = some true := by
  let clause : Clause := ⟨"dateUsShortMax", ["5/25/12 9:30"], none⟩
  have hdate : findDate (normalize clause.name) = some (⟨.us, .short⟩, some .max) := by
    decide +kernel
  have hwrites : Format.Writes ⟨.us, .short⟩ "5/25/12 9:30".toList ⟨2012, 5, 25, 9, 30, 0⟩ := by
    have hyear : IsNumeral [2] ['1', '2'] 12 := ⟨by decide, by simp, by decide⟩
    have hmonth : IsNumeral [1, 2] ['5'] 5 := ⟨by decide, by simp, by decide⟩
    have hday : IsNumeral [1, 2] ['2', '5'] 25 := ⟨by decide, by simp, by decide⟩
    have hhour : IsNumeral [1, 2] ['9'] 9 := ⟨by decide, by simp, by decide⟩
    have hminute : IsNumeral [2] ['3', '0'] 30 := ⟨by decide, by simp, by decide⟩
    refine ⟨⟨['1', '2'], ['5'], ['2', '5'], '/', '/', some ⟨' ', ['9'], ['3', '0'], none⟩⟩,
      by decide +kernel, ⟨by decide, rfl, .inr ⟨nofun, 12, hyear, rfl⟩, hmonth, hday, ?_⟩⟩
    exact ⟨by decide, hhour, hminute, rfl⟩
  obtain ⟨htaken, haccepts⟩ := accepts_bound_iff_writes none hdate (.inr rfl) rfl
  obtain ⟨v, hv⟩ := htaken.2 ⟨_, hwrites.reads nofun, by decide⟩
  exact ⟨v, hv, (haccepts v hv _).2 ⟨_, hwrites⟩⟩

/-- A month with a plus sign is taken for a bound, and not for a value. -/
theorem not_forall_accepts_bound :
    ¬ ∀ {clause : Clause} {literal : Option LiteralPattern} {f : Format} {bound : Bound}
      {raw : String} {v : Validator},
      findDate (normalize clause.name) = some (f, some bound) → bound = .min ∨ bound = .max →
      clause.params = [raw] → clause.resolve literal = .ok v →
      ∀ others, v.passes? (some raw) others = some true := by
  intro hall
  let clause : Clause := ⟨"date_iso_min", ["2012-+5-25"], none⟩
  have hdate : findDate (normalize clause.name) = some (⟨.iso, .long⟩, some .min) := by
    decide +kernel
  have hrefused : ((clause.resolve none).toOption).any (fun v =>
      v.passes? (some "2012-+5-25") (fun _ => none) == some false) = true := by
    decide +kernel
  obtain ⟨v, hv, hrefused⟩ := (Option.any_eq_true _ _).1 hrefused
  have haccepts := hall hdate (.inl rfl) rfl (eq_ok_of_toOption hv) fun _ => none
  rw [beq_iff_eq.1 hrefused] at haccepts
  cases haccepts

end Rule

end FieldRules
