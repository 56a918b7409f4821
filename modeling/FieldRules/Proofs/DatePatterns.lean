import FieldRules.Proofs.PatternLanguages
import FieldRules.Proofs.WrittenDates

/-!
# The patterns of dates

The patterns of days, months and hours let the digits of any script pass in
some places, and those of ASCII in the others.  So they accept rows of digits
only, and all numerals whose values exist, but neither just the ones nor just
the others.  `Numerals` states both sides, and the pattern of a format inherits
them.

* `numerals_month`, `numerals_day`, `numerals_hour`, `numerals_sixtieth`: the parts.
* `exists_rough_of_mem_words`: what the pattern of a format accepts is a layout of
  rows of digits.
* `mem_words_of_spells`: it accepts every text of an instant that exists.
-/

namespace FieldRules.Date

open Text Pattern Expr Unicode CaseFold

variable {w : List Char} {n : Nat}

/-! ## Parts of dates and times -/

/-- The pattern accepts rows of so many digits only, and all numerals whose values
are meant. -/
structure Numerals (e : Expr) (lengths : List Nat) (Meant : Nat → Prop) : Prop where
  isRow : ∀ {w}, w ∈ e.words → IsRow lengths w
  mem_words : ∀ {w n}, IsNumeral lengths w n → Meant n → w ∈ e.words

/-- A digit from one to nine, with a zero before it or without one. -/
def nonzeroExpr : Expr :=
  .seqOf [.rep (.char '0') .optional, .oneOf [.interval '1' '9']]

theorem mem_nonzeroExpr_iff : w ∈ nonzeroExpr.words ↔
    ∃ c : Char, (49 ≤ c.toNat ∧ c.toNat ≤ 57) ∧ (w = [c] ∨ ∃ a, a = '0' ∧ w = [a, c]) :=
  (isClass_char_of_lt (by decide)).mem_words_optional_pair_iff
    (isClass_oneOf_interval_of_lt (by decide))

theorem isRow_of_mem_nonzeroExpr (hw : w ∈ nonzeroExpr.words) : IsRow [1, 2] w := by
  obtain ⟨c, hc, hshape⟩ := mem_nonzeroExpr_iff.1 hw
  have hdigit : CharSet.digit.contains c = true := digit_of_toNat (by omega) (by omega)
  rcases hshape with rfl | ⟨a, rfl, rfl⟩
  · exact isRow_one (by simp) hdigit
  · exact isRow_two (by simp) (digit_of_toNat (by decide) (by decide)) hdigit

/-- One, two and so on up to nine, with a zero before it or without one. -/
theorem mem_nonzeroExpr_of_isNumeral (hnumeral : IsNumeral [1, 2] w n) (hlow : 1 ≤ n)
    (hhigh : n ≤ 9) : w ∈ nonzeroExpr.words := by
  rw [mem_nonzeroExpr_iff]
  rcases hnumeral.exists_one_or_two with ⟨c, rfl, hc, rfl⟩ | ⟨a, b, rfl, ha, hb, rfl⟩
  · exact ⟨c, by omega, .inl rfl⟩
  · have hzero : a.toNat = 48 := by omega
    exact ⟨b, by omega, .inr ⟨a, Char.toNat_inj.1 hzero, rfl⟩⟩

theorem mem_teen_iff : w ∈ (seqOf [.char '1', .oneOf [.interval '0' '2']]).words ↔
    ∃ a b : Char, a = '1' ∧ (48 ≤ b.toNat ∧ b.toNat ≤ 50) ∧ w = [a, b] :=
  (isClass_char_of_lt (by decide)).mem_words_pair_iff (isClass_oneOf_interval_of_lt (by decide))

theorem numerals_month : Numerals Format.monthExpr [1, 2] fun n => 1 ≤ n ∧ n ≤ 12 where
  isRow {w} hw := by
    rcases mem_words_alt_iff.1 hw with hw | hw
    · exact isRow_of_mem_nonzeroExpr hw
    · obtain ⟨a, b, rfl, hb, rfl⟩ := mem_teen_iff.1 hw
      exact isRow_two (by simp) (digit_of_toNat (by decide) (by decide))
        (digit_of_toNat (by omega) (by omega))
  mem_words {w n} hnumeral hmeant := by
    refine mem_words_alt_iff.2 ?_
    rcases Nat.lt_or_ge n 10 with hless | hmore
    · exact .inl (mem_nonzeroExpr_of_isNumeral hnumeral hmeant.1 (by omega))
    · obtain ⟨a, b, rfl, ha, hb, rfl⟩ := hnumeral.exists_two_of_le hmore
      have hone : a.toNat = 49 := by omega
      exact .inr (mem_teen_iff.2 ⟨a, b, Char.toNat_inj.1 hone, by omega, rfl⟩)

theorem mem_twenties_iff : w ∈ (seqOf [.oneOf [.char '1', .char '2'], .digit]).words ↔
    ∃ a b : Char, a ∈ ['1', '2'] ∧ CharSet.digit.contains b = true ∧ w = [a, b] :=
  (isClass_oneOf_chars_of_lt ['1', '2'] (by simp)).mem_words_pair_iff isClass_digit

theorem mem_thirties_iff : w ∈ (seqOf [.char '3', .oneOf [.char '0', .char '1']]).words ↔
    ∃ a b : Char, a = '3' ∧ b ∈ ['0', '1'] ∧ w = [a, b] :=
  (isClass_char_of_lt (by decide)).mem_words_pair_iff
    (isClass_oneOf_chars_of_lt ['0', '1'] (by simp))

theorem numerals_day : Numerals Format.dayExpr [1, 2] fun n => 1 ≤ n ∧ n ≤ 31 where
  isRow {w} hw := by
    rcases mem_words_alt_iff.1 hw with hw | hw
    · exact isRow_of_mem_nonzeroExpr hw
    rcases mem_words_alt_iff.1 hw with hw | hw
    · obtain ⟨a, b, ha, hb, rfl⟩ := mem_twenties_iff.1 hw
      have hall : ∀ a ∈ ['1', '2'], a.isDigit = true := by simp
      exact isRow_two (by simp) (digit_contains_of_isDigit (hall a ha)) hb
    · obtain ⟨a, b, rfl, hb, rfl⟩ := mem_thirties_iff.1 hw
      have hall : ∀ b ∈ ['0', '1'], b.isDigit = true := by simp
      exact isRow_two (by simp) (digit_of_toNat (by decide) (by decide)) (digit_contains_of_isDigit (hall b hb))
  mem_words {w n} hnumeral hmeant := by
    refine mem_words_alt_iff.2 ?_
    rcases Nat.lt_or_ge n 10 with hless | hmore
    · exact .inl (mem_nonzeroExpr_of_isNumeral hnumeral hmeant.1 (by omega))
    obtain ⟨a, b, rfl, ha, hb, rfl⟩ := hnumeral.exists_two_of_le hmore
    refine .inr (mem_words_alt_iff.2 ?_)
    obtain hone | htwo | ⟨hthree, hrest⟩ : a.toNat = 49 ∨ a.toNat = 50 ∨
        a.toNat = 51 ∧ (b.toNat = 48 ∨ b.toNat = 49) := by omega
    · obtain rfl : a = '1' := Char.toNat_inj.1 hone
      exact .inl (mem_twenties_iff.2 ⟨'1', b, by simp, digit_of_toNat hb.1 hb.2, rfl⟩)
    · obtain rfl : a = '2' := Char.toNat_inj.1 htwo
      exact .inl (mem_twenties_iff.2 ⟨'2', b, by simp, digit_of_toNat hb.1 hb.2, rfl⟩)
    · obtain rfl : a = '3' := Char.toNat_inj.1 hthree
      refine .inr (mem_thirties_iff.2 ⟨'3', b, rfl, ?_, rfl⟩)
      rcases hrest with hzero | hone
      · obtain rfl : b = '0' := Char.toNat_inj.1 hzero
        simp
      · obtain rfl : b = '1' := Char.toNat_inj.1 hone
        simp

theorem mem_early_iff :
    w ∈ (seqOf [.rep (.oneOf [.char '0', .char '1']) .optional, .digit]).words ↔
      ∃ b : Char, CharSet.digit.contains b = true ∧
        (w = [b] ∨ ∃ a, a ∈ ['0', '1'] ∧ w = [a, b]) :=
  (isClass_oneOf_chars_of_lt ['0', '1'] (by simp)).mem_words_optional_pair_iff
    isClass_digit

theorem mem_late_iff : w ∈ (seqOf [.char '2', .oneOf [.interval '0' '3']]).words ↔
    ∃ a b : Char, a = '2' ∧ (48 ≤ b.toNat ∧ b.toNat ≤ 51) ∧ w = [a, b] :=
  (isClass_char_of_lt (by decide)).mem_words_pair_iff (isClass_oneOf_interval_of_lt (by decide))

theorem numerals_hour : Numerals Format.hourExpr [1, 2] (· < 24) where
  isRow {w} hw := by
    rcases mem_words_alt_iff.1 hw with hw | hw
    · obtain ⟨b, hb, rfl | ⟨a, ha, rfl⟩⟩ := mem_early_iff.1 hw
      · exact isRow_one (by simp) hb
      · have hall : ∀ a ∈ ['0', '1'], a.isDigit = true := by simp
        exact isRow_two (by simp) (digit_contains_of_isDigit (hall a ha)) hb
    · obtain ⟨a, b, rfl, hb, rfl⟩ := mem_late_iff.1 hw
      exact isRow_two (by simp) (digit_of_toNat (by decide) (by decide))
        (digit_of_toNat (by omega) (by omega))
  mem_words {w n} hnumeral hmeant := by
    refine mem_words_alt_iff.2 ?_
    rcases hnumeral.exists_one_or_two with ⟨c, rfl, hc, rfl⟩ | ⟨a, b, rfl, ha, hb, rfl⟩
    · exact .inl (mem_early_iff.2 ⟨c, digit_of_toNat hc.1 hc.2, .inl rfl⟩)
    obtain hzero | hone | ⟨htwo, hrest⟩ : a.toNat = 48 ∨ a.toNat = 49 ∨
        a.toNat = 50 ∧ b.toNat ≤ 51 := by omega
    · obtain rfl : a = '0' := Char.toNat_inj.1 hzero
      exact .inl (mem_early_iff.2 ⟨b, digit_of_toNat hb.1 hb.2, .inr ⟨'0', by simp, rfl⟩⟩)
    · obtain rfl : a = '1' := Char.toNat_inj.1 hone
      exact .inl (mem_early_iff.2 ⟨b, digit_of_toNat hb.1 hb.2, .inr ⟨'1', by simp, rfl⟩⟩)
    · obtain rfl : a = '2' := Char.toNat_inj.1 htwo
      exact .inr (mem_late_iff.2 ⟨'2', b, rfl, ⟨hb.1, hrest⟩, rfl⟩)

theorem mem_sixtieth_iff : w ∈ (seqOf [.oneOf [.interval '0' '5'], .digit]).words ↔
    ∃ a b : Char, (48 ≤ a.toNat ∧ a.toNat ≤ 53) ∧ CharSet.digit.contains b = true ∧
      w = [a, b] :=
  (isClass_oneOf_interval_of_lt (by decide)).mem_words_pair_iff isClass_digit

theorem numerals_sixtieth :
    Numerals (seqOf [.oneOf [.interval '0' '5'], .digit]) [2] (· < 60) where
  isRow {w} hw := by
    obtain ⟨a, b, ha, hb, rfl⟩ := mem_sixtieth_iff.1 hw
    exact isRow_two (by simp) (digit_of_toNat (by omega) (by omega)) hb
  mem_words {w n} hnumeral hmeant := by
    obtain ⟨a, b, rfl, ha, hb, rfl⟩ := hnumeral.exists_two
    exact mem_sixtieth_iff.2 ⟨a, b, ⟨ha.1, by omega⟩, digit_of_toNat hb.1 hb.2, rfl⟩

/-! ## Years -/

variable {f : Format} {d : DateText} {t : DateTime}

theorem isRow_of_mem_digits {n : Nat} {reluctant : Bool}
    (hw : w ∈ (rep .digit (.exactly n) reluctant).words) : IsRow [n] w := by
  obtain ⟨hlength, hdigit⟩ := isClass_digit.mem_words_exactly_iff.1 hw
  exact ⟨by simp [hlength], hdigit⟩

theorem mem_digits_of_isRow {n : Nat} {reluctant : Bool} (hrow : IsRow [n] w) :
    w ∈ (rep .digit (.exactly n) reluctant).words :=
  isClass_digit.mem_words_exactly_iff.2 ⟨List.mem_singleton.1 hrow.length_mem, hrow.digit⟩

theorem isRow_of_mem_yearExpr (hw : w ∈ f.yearExpr.words) : IsRow [2, 4] w := by
  unfold Format.yearExpr at hw
  dsimp only at hw
  split at hw
  · exact (isRow_of_mem_digits hw).mono (by simp)
  · exact (isRow_of_mem_digits hw).mono (by simp)
  · exact (isRow_of_mem_digits hw).mono (by simp)
  · rcases mem_words_alt_iff.1 hw with hw | hw
    · exact (isRow_of_mem_digits hw).mono (by simp)
    · exact (isRow_of_mem_digits hw).mono (by simp)

theorem mem_yearExpr_of_writesYear (hiso : f.order = .iso → f.year = .long)
    (hyear : WritesYear f.year w n) : w ∈ f.yearExpr.words := by
  unfold Format.yearExpr
  dsimp only
  rcases hyear with ⟨hlong, hfour⟩ | ⟨hshort, m, htwo, -⟩
  · have hwords : ∀ {reluctant}, w ∈ (rep .digit (.exactly 4) reluctant).words :=
      mem_digits_of_isRow hfour.isRow
    split
    case h_1 | h_2 => exact hwords
    case h_3 hyear _ => exact absurd hyear hlong
    case h_4 => exact mem_words_alt_iff.2 (.inl hwords)
  · have hwords : ∀ {reluctant}, w ∈ (rep .digit (.exactly 2) reluctant).words :=
      mem_digits_of_isRow htwo.isRow
    split
    case h_1 horder => exact absurd (hiso horder) hshort
    case h_2 hyear _ => exact absurd hyear hshort
    case h_3 => exact hwords
    case h_4 => exact mem_words_alt_iff.2 (.inr hwords)

/-! ## Whole texts -/

theorem isClass_separator : IsClass Format.separatorExpr (· ∈ Format.separators) :=
  isClass_oneOf_chars_of_lt ['-', '/', '.'] (by simp)

/-- A time stands behind a blank, or behind a letter whose case is ignored. -/
theorem isClass_timeMark : IsClass (oneOf [.char ' ', .char 'T']) (· ∈ Format.timeMarks) := by
  intro w
  refine (isClass_oneOf_chars [' ', 'T'] w).trans (exists_congr fun c => and_congr_left' ?_)
  have hblank : simpleFold ' ' = simpleFold c ↔ c = ' ' :=
    (simpleFold_eq_iff_of_lt (by decide)).trans eq_comm
  have hletter : simpleFold 'T' = simpleFold c ↔ c = 'T' ∨ c = 't' := by
    have hvariants : variants 'T' = ['t', 'T'] := by decide +kernel
    rw [eq_comm, ← mem_variants_iff, hvariants]
    simp [or_comm]
  simp only [List.mem_cons, List.not_mem_nil, or_false, exists_eq_or_imp, exists_eq_left, hblank,
    hletter, Format.timeMarks]

theorem mem_sixtiethExpr_iff : w ∈ Format.sixtiethExpr.words ↔
    ∃ c v, c = ':' ∧ v ∈ (seqOf [.oneOf [.interval '0' '5'], .digit]).words ∧ w = c :: v :=
  (isClass_char_of_lt (by decide)).mem_words_seq_iff

/-- What the pattern lets pass for a time is a layout of rows of digits. -/
theorem exists_rough_of_mem_timeExpr (hw : w ∈ Format.timeExpr.words) :
    ∃ clock : Option ClockText, (∀ c ∈ clock, c.Rough) ∧
      w = clock.elim [] fun c => c.mark :: c.body := by
  rcases mem_words_optional_iff.1 hw with rfl | hw
  · exact ⟨none, nofun, rfl⟩
  obtain ⟨mark, body, hmark, hbody, rfl⟩ := isClass_timeMark.mem_words_seq_iff.1 hw
  obtain ⟨hour, hhour, behind, hbehind, rfl⟩ := mem_words_seq_iff.1 hbody
  obtain ⟨colon, hcolon, rest, hrest, rfl⟩ := mem_words_seq_iff.1 hbehind
  obtain ⟨_, minute, rfl, hminute, rfl⟩ := mem_sixtiethExpr_iff.1 hcolon
  have hhour := numerals_hour.isRow hhour
  have hminute := numerals_sixtieth.isRow hminute
  rcases mem_words_optional_iff.1 hrest with rfl | hrest
  · refine ⟨some ⟨mark, hour, minute, none⟩, ?_, rfl⟩
    rintro c ⟨⟩
    exact ⟨hmark, hhour, hminute, nofun⟩
  · obtain ⟨_, second, rfl, hsecond, rfl⟩ := mem_sixtiethExpr_iff.1 hrest
    refine ⟨some ⟨mark, hour, minute, some second⟩, ?_, rfl⟩
    rintro c ⟨⟩
    refine ⟨hmark, hhour, hminute, ?_⟩
    rintro row ⟨⟩
    exact numerals_sixtieth.isRow hsecond

/-- The pattern lets the text of every time pass that exists. -/
theorem mem_timeExpr_of_spells {clock : Option ClockText} {hour minute second : Nat}
    (hspells : ∀ c ∈ clock, c.Spells hour minute second) (hhour : hour < 24)
    (hminute : minute < 60) (hsecond : second < 60) :
    (clock.elim [] fun c => c.mark :: c.body) ∈ Format.timeExpr.words := by
  refine mem_words_optional_iff.2 ?_
  cases clock with
  | none => exact .inl rfl
  | some c =>
    have hc := hspells c rfl
    have hsixtieth : ∀ {row n}, IsNumeral [2] row n → n < 60 →
        ':' :: row ∈ Format.sixtiethExpr.words := by
      intro row n hrow hn
      exact mem_sixtiethExpr_iff.2 ⟨':', row, rfl, numerals_sixtieth.mem_words hrow hn, rfl⟩
    refine .inr (isClass_timeMark.mem_words_seq_iff.2 ⟨c.mark, c.body, hc.mark, ?_, rfl⟩)
    refine mem_words_seq_iff.2 ⟨c.hour, numerals_hour.mem_words hc.hour hhour, _, ?_, rfl⟩
    refine mem_words_seq_iff.2 ⟨':' :: c.minute, hsixtieth hc.minute hminute, _, ?_, rfl⟩
    refine mem_words_optional_iff.2 ?_
    have hs := hc.second
    cases hcases : c.second with
    | none => exact .inl rfl
    | some row =>
      rw [hcases] at hs
      exact .inr (hsixtieth hs hsecond)

/-- Three parts with separators between them, and maybe a time behind them. -/
theorem mem_parts_iff {x y z : Expr} :
    w ∈ (seqOf [x, Format.separatorExpr, y, Format.separatorExpr, z, Format.timeExpr]).words ↔
      ∃ a ∈ x.words, ∃ first ∈ Format.separators, ∃ b ∈ y.words, ∃ second ∈ Format.separators,
        ∃ c ∈ z.words, ∃ time ∈ Format.timeExpr.words,
          w = a ++ first :: (b ++ second :: (c ++ time)) := by
  constructor
  · intro hw
    obtain ⟨a, ha, u₁, hu₁, rfl⟩ := mem_words_seq_iff.1 hw
    obtain ⟨first, u₂, hfirst, hu₂, rfl⟩ := isClass_separator.mem_words_seq_iff.1 hu₁
    obtain ⟨b, hb, u₃, hu₃, rfl⟩ := mem_words_seq_iff.1 hu₂
    obtain ⟨second, u₄, hsecond, hu₄, rfl⟩ := isClass_separator.mem_words_seq_iff.1 hu₃
    obtain ⟨c, hc, time, htime, rfl⟩ := mem_words_seq_iff.1 hu₄
    exact ⟨a, ha, first, hfirst, b, hb, second, hsecond, c, hc, time, htime, rfl⟩
  · rintro ⟨a, ha, first, hfirst, b, hb, second, hsecond, c, hc, time, htime, rfl⟩
    refine mem_words_seq_iff.2 ⟨a, ha, _, ?_, rfl⟩
    refine isClass_separator.mem_words_seq_iff.2 ⟨first, _, hfirst, ?_, rfl⟩
    refine mem_words_seq_iff.2 ⟨b, hb, _, ?_, rfl⟩
    refine isClass_separator.mem_words_seq_iff.2 ⟨second, _, hsecond, ?_, rfl⟩
    exact mem_words_seq_iff.2 ⟨c, hc, time, htime, rfl⟩

/-- The pattern of a format without its anchors. -/
def Format.bodyExpr (f : Format) : Expr :=
  let parts (a b c : Expr) : Expr := .seqOf [a, separatorExpr, b, separatorExpr, c, timeExpr]
  match f.order with
  | .iso => parts f.yearExpr monthExpr dayExpr
  | .us => parts monthExpr dayExpr f.yearExpr
  | .euro => parts dayExpr monthExpr f.yearExpr

theorem expr_eq_whole (f : Format) : f.expr = .whole f.bodyExpr := by
  unfold Format.expr Format.bodyExpr
  cases f.order <;> rfl

theorem isPlain_bodyExpr (f : Format) : f.bodyExpr.isPlain = true := by
  rcases f with ⟨order, year⟩
  cases order <;> cases year <;> rfl

theorem mem_bodyExpr_iff : w ∈ f.bodyExpr.words ↔
    ∃ (d : DateText) (time : List Char), d.year ∈ f.yearExpr.words ∧
      d.month ∈ Format.monthExpr.words ∧ d.day ∈ Format.dayExpr.words ∧
        d.first ∈ Format.separators ∧ d.second ∈ Format.separators ∧
          time ∈ Format.timeExpr.words ∧ w = d.line f.order ++ time := by
  unfold Format.bodyExpr DateText.line
  constructor
  · intro hw
    cases horder : f.order
    all_goals
      rw [horder] at hw
      obtain ⟨a, ha, first, hfirst, b, hb, second, hsecond, c, hc, time, htime, rfl⟩ :=
        mem_parts_iff.1 hw
    case iso =>
      exact ⟨⟨a, b, c, first, second, none⟩, time, ha, hb, hc, hfirst, hsecond, htime, by simp⟩
    case us =>
      exact ⟨⟨c, a, b, first, second, none⟩, time, hc, ha, hb, hfirst, hsecond, htime, by simp⟩
    case euro =>
      exact ⟨⟨c, b, a, first, second, none⟩, time, hc, hb, ha, hfirst, hsecond, htime, by simp⟩
  · rintro ⟨d, time, hyear, hmonth, hday, hfirst, hsecond, htime, rfl⟩
    cases f.order with
    | iso =>
      exact mem_parts_iff.2 ⟨_, hyear, _, hfirst, _, hmonth, _, hsecond, _, hday, _, htime,
        by simp⟩
    | us =>
      exact mem_parts_iff.2 ⟨_, hmonth, _, hfirst, _, hday, _, hsecond, _, hyear, _, htime,
        by simp⟩
    | euro =>
      exact mem_parts_iff.2 ⟨_, hday, _, hfirst, _, hmonth, _, hsecond, _, hyear, _, htime,
        by simp⟩

/-- What the pattern accepts is a layout of rows of digits. -/
theorem exists_rough_of_mem_words (hw : w ∈ f.bodyExpr.words) :
    ∃ d : DateText, d.chars f.order = w ∧ d.Rough := by
  obtain ⟨d, time, hyear, hmonth, hday, hfirst, hsecond, htime, rfl⟩ := mem_bodyExpr_iff.1 hw
  obtain ⟨clock, hclock, rfl⟩ := exists_rough_of_mem_timeExpr htime
  exact ⟨{ d with clock }, rfl, hfirst, hsecond, isRow_of_mem_yearExpr hyear,
    numerals_month.isRow hmonth, numerals_day.isRow hday, hclock⟩

/-! ## Instants that exist -/

theorem daysIn_le (year month : Nat) : daysIn year month ≤ 31 := by
  unfold daysIn
  repeat' split
  all_goals omega

theorem month_of_daysIn_pos {year month : Nat} (hpos : 0 < daysIn year month) :
    1 ≤ month ∧ month ≤ 12 := by
  unfold daysIn at hpos
  split at hpos <;> omega

theorem DateTime.parts_of_isReal (hreal : t.isReal = true) :
    (1 ≤ t.month ∧ t.month ≤ 12) ∧ (1 ≤ t.day ∧ t.day ≤ 31) ∧
      t.hour < 24 ∧ t.minute < 60 ∧ t.second < 60 := by
  simp only [isReal, Bool.and_eq_true, decide_eq_true_iff] at hreal
  obtain ⟨⟨⟨⟨hfirst, hlast⟩, hhour⟩, hminute⟩, hsecond⟩ := hreal
  have hmonth := month_of_daysIn_pos (Nat.lt_of_lt_of_le hfirst hlast)
  have hdays := daysIn_le t.year t.month
  exact ⟨hmonth, ⟨hfirst, hlast.trans hdays⟩, hhour, hminute, hsecond⟩

/-- The pattern accepts every text of an instant that exists. -/
theorem mem_words_of_spells (hiso : f.order = .iso → f.year = .long) (hspells : d.Spells f t)
    (hreal : t.isReal = true) : d.chars f.order ∈ f.bodyExpr.words := by
  obtain ⟨hmonth, hday, hhour, hminute, hsecond⟩ := DateTime.parts_of_isReal hreal
  have hyears := mem_yearExpr_of_writesYear hiso hspells.year
  have hmonths := numerals_month.mem_words hspells.month hmonth
  have hdays := numerals_day.mem_words hspells.day hday
  have hfirst := hspells.rough.first
  have hlast := hspells.rough.second
  have htimes : (d.clock.elim [] fun c => c.mark :: c.body) ∈ Format.timeExpr.words := by
    refine mem_timeExpr_of_spells (fun c hc => ?_) hhour hminute hsecond
    have hclock := hspells.clock
    rwa [Option.mem_def.1 hc] at hclock
  exact mem_bodyExpr_iff.2 ⟨d, _, hyears, hmonths, hdays, hfirst, hlast, htimes, rfl⟩

end FieldRules.Date
