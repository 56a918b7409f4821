import Mathlib.Data.Nat.Log
import Mathlib.Tactic.Positivity
import Mathlib.Tactic.Ring
import FieldRules.Number.Binary64

/-!
# Rounding to double precision

`nearest` keeps 53 binary places of a quotient and rounds the others away.

* `roundQuotient_le_iff`: a quotient is rounded to at most `m` if it is less than halfway
  from `m` to the next number, or halfway and `m` is even.
* `nearest_le_pow`, `pow_le_nearest`: rounding does not leave the powers of two around a
  quotient.
* `nearest_mono`: a greater quotient is not rounded to a lesser number.
* `nearest_lt_pow_iff`: a quotient is rounded to a power of two as soon as it is halfway
  from the number of 53 places below it.
* `isSome_unitsOfDecimal?_iff`: the decimal numbers without exponent that are in range.
* `nearest_whole`: whole numbers of 53 binary places are not rounded.
-/

namespace FieldRules.Number.Binary64

variable {num num' den m : Nat}

/-! ## Quotients -/

/-- The two whole numbers around a quotient, in terms of the remainder. -/
theorem roundQuotient_cases (num den : Nat) :
    roundQuotient num den = num / den ∧
        (2 * (num % den) < den ∨ 2 * (num % den) = den ∧ num / den % 2 = 0) ∨
      roundQuotient num den = num / den + 1 ∧ den ≤ 2 * (num % den) ∧
        ¬ (2 * (num % den) = den ∧ num / den % 2 = 0) := by
  simp only [roundQuotient, Bool.or_eq_true, Bool.and_eq_true, decide_eq_true_eq, beq_iff_eq]
  split
  · next h => exact .inl ⟨rfl, h⟩
  · next h => exact .inr ⟨rfl, by omega, by omega⟩

theorem roundQuotient_le_iff (hden : 0 < den) : roundQuotient num den ≤ m ↔
    2 * num < (2 * m + 1) * den ∨ 2 * num = (2 * m + 1) * den ∧ m % 2 = 0 := by
  have hdiv : den * (num / den) + num % den = num := Nat.div_add_mod num den
  have hmod : num % den < den := Nat.mod_lt num hden
  have hright : (2 * m + 1) * den = 2 * (den * m) + den := by ring
  rw [hright]
  have hcases := roundQuotient_cases num den
  generalize roundQuotient num den = rounded at *
  generalize num / den = q at *
  generalize num % den = r at *
  -- the products are compared by comparing the factors
  rcases Nat.lt_trichotomy q m with hless | rfl | hmore
  · have hmul : den * (q + 1) ≤ den * m := Nat.mul_le_mul_left den hless
    rw [Nat.mul_succ] at hmul
    omega
  · omega
  · have hmul : den * (m + 1) ≤ den * q := Nat.mul_le_mul_left den hmore
    rw [Nat.mul_succ] at hmul
    omega

theorem roundQuotient_mono (hden : 0 < den) (hle : num ≤ num') :
    roundQuotient num den ≤ roundQuotient num' den := by
  have hself := Nat.le_refl (roundQuotient num' den)
  rw [roundQuotient_le_iff hden] at hself ⊢
  omega

theorem div_le_roundQuotient (num den : Nat) : num / den ≤ roundQuotient num den := by
  have := roundQuotient_cases num den
  omega

theorem roundQuotient_le_succ (num den : Nat) : roundQuotient num den ≤ num / den + 1 := by
  have := roundQuotient_cases num den
  omega

/-! ## Powers of two around a quotient -/

theorem nearest_eq (num den : Nat) : nearest num den =
    roundQuotient num (den * 2 ^ lostPlaces (num / den)) * 2 ^ lostPlaces (num / den) :=
  rfl

theorem nearest_le_pow (num den : Nat) : nearest num den ≤ 2 ^ ((num / den).log2 + 1) := by
  have hlost : lostPlaces (num / den) ≤ (num / den).log2 := Nat.sub_le _ _
  rw [nearest_eq]
  generalize lostPlaces (num / den) = lost at *
  have hpow : 2 ^ ((num / den).log2 + 1) = 2 ^ ((num / den).log2 + 1 - lost) * 2 ^ lost := by
    rw [← pow_add]
    congr 1
    omega
  have hquotient : num / (den * 2 ^ lost) < 2 ^ ((num / den).log2 + 1 - lost) := by
    rw [← Nat.div_div_eq_div_mul]
    apply Nat.div_lt_of_lt_mul
    rw [mul_comm, ← hpow]
    exact Nat.lt_log2_self
  rw [hpow]
  apply Nat.mul_le_mul_right
  have := roundQuotient_le_succ num (den * 2 ^ lost)
  omega

theorem pow_le_nearest (hquotient : num / den ≠ 0) : 2 ^ (num / den).log2 ≤ nearest num den := by
  have hlost : lostPlaces (num / den) ≤ (num / den).log2 := Nat.sub_le _ _
  rw [nearest_eq]
  generalize lostPlaces (num / den) = lost at *
  have hpow : 2 ^ (num / den).log2 = 2 ^ ((num / den).log2 - lost) * 2 ^ lost := by
    rw [← pow_add]
    congr 1
    omega
  have hle : 2 ^ ((num / den).log2 - lost) ≤ num / (den * 2 ^ lost) := by
    rw [← Nat.div_div_eq_div_mul, Nat.le_div_iff_mul_le (Nat.two_pow_pos lost), ← hpow]
    exact Nat.log2_self_le hquotient
  rw [hpow]
  apply Nat.mul_le_mul_right
  exact hle.trans (div_le_roundQuotient num _)

/-! ## Order -/

theorem log2_mono {a b : Nat} (hle : a ≤ b) : a.log2 ≤ b.log2 := by
  rw [Nat.log2_eq_log_two, Nat.log2_eq_log_two]
  exact Nat.log_mono_right hle

/-- A greater quotient is not rounded to a lesser number. -/
theorem nearest_mono (hden : 0 < den) (hle : num ≤ num') : nearest num den ≤ nearest num' den := by
  have hquotient : num / den ≤ num' / den := Nat.div_le_div_right hle
  have hlog : (num / den).log2 ≤ (num' / den).log2 := log2_mono hquotient
  rcases Nat.eq_or_lt_of_le (Nat.sub_le_sub_right hlog 52) with hsame | hless
  · -- as many places are lost of both
    rw [nearest_eq, nearest_eq, lostPlaces, lostPlaces, hsame]
    apply Nat.mul_le_mul_right
    exact roundQuotient_mono (Nat.mul_pos hden (Nat.two_pow_pos _)) hle
  · -- a power of two is between them
    have hne : num' / den ≠ 0 := by
      intro hzero
      rw [hzero, Nat.log2_zero] at hless
      omega
    calc
      nearest num den ≤ 2 ^ ((num / den).log2 + 1) := nearest_le_pow num den
      _ ≤ 2 ^ (num' / den).log2 := Nat.pow_le_pow_right (by decide) (by omega)
      _ ≤ nearest num' den := pow_le_nearest hne

/-! ## Rounding up to a power of two -/

theorem lt_pow_mul (hden : 0 < den) : num < 2 ^ ((num / den).log2 + 1) * den := by
  calc
    num < den * (num / den + 1) := Nat.lt_mul_div_succ num hden
    _ = (num / den + 1) * den := mul_comm _ _
    _ ≤ 2 ^ ((num / den).log2 + 1) * den := Nat.mul_le_mul_right den Nat.lt_log2_self

theorem pow_mul_le (hquotient : num / den ≠ 0) : 2 ^ (num / den).log2 * den ≤ num := by
  calc
    2 ^ (num / den).log2 * den ≤ num / den * den :=
      Nat.mul_le_mul_right den (Nat.log2_self_le hquotient)
    _ ≤ num := Nat.div_mul_le_self num den

/-- Among the quotients below a power of two, those halfway from the last number of 53 places
on are rounded to it. -/
theorem nearest_lt_pow_iff_of_log2_eq (hden : 0 < den) {j : Nat}
    (hlog : (num / den).log2 = j + 53) :
    nearest num den < 2 ^ (j + 54) ↔ num < (2 ^ 54 - 1) * 2 ^ j * den := by
  -- the last number of 53 places
  obtain ⟨last, hlast, hodd, hmiddle⟩ :
      ∃ last : Nat, 2 ^ 53 = last + 1 ∧ last % 2 = 1 ∧ 2 ^ 54 - 1 = 2 * last + 1 :=
    ⟨2 ^ 53 - 1, by norm_num, by norm_num, by norm_num⟩
  have hlost : lostPlaces (num / den) = j + 1 := by
    rw [lostPlaces, hlog]
    omega
  have hsplit : 2 ^ (j + 54) = (last + 1) * 2 ^ (j + 1) := by
    rw [← hlast, ← pow_add]
    congr 1
    omega
  have hhalf : (2 * last + 1) * (den * 2 ^ (j + 1)) = 2 * ((2 * last + 1) * 2 ^ j * den) := by
    ring
  rw [hmiddle, nearest_eq, hlost, hsplit, Nat.mul_lt_mul_right (Nat.two_pow_pos _),
    Nat.lt_succ_iff, roundQuotient_le_iff (Nat.mul_pos hden (Nat.two_pow_pos _)), hhalf]
  omega

/-- Halfway from the last number of 53 places, a quotient is rounded to the power of two. -/
theorem nearest_lt_pow_iff (hden : 0 < den) (j : Nat) :
    nearest num den < 2 ^ (j + 54) ↔ num < (2 ^ 54 - 1) * 2 ^ j * den := by
  rcases Nat.lt_trichotomy (num / den).log2 (j + 53) with hless | heq | hmore
  · apply iff_of_true
    · calc
        nearest num den ≤ 2 ^ ((num / den).log2 + 1) := nearest_le_pow num den
        _ < 2 ^ (j + 54) := Nat.pow_lt_pow_right (by decide) (by omega)
    · calc
        num < 2 ^ ((num / den).log2 + 1) * den := lt_pow_mul hden
        _ ≤ 2 ^ (53 + j) * den :=
          Nat.mul_le_mul_right den (Nat.pow_le_pow_right (by decide) (by omega))
        _ = 2 ^ 53 * 2 ^ j * den := by rw [pow_add]
        _ ≤ (2 ^ 54 - 1) * 2 ^ j * den :=
          Nat.mul_le_mul_right den (Nat.mul_le_mul_right _ (by decide))
  · exact nearest_lt_pow_iff_of_log2_eq hden heq
  · have hne : num / den ≠ 0 := by
      intro hzero
      rw [hzero, Nat.log2_zero] at hmore
      omega
    apply iff_of_false
    · rw [Nat.not_lt]
      calc
        2 ^ (j + 54) ≤ 2 ^ (num / den).log2 := Nat.pow_le_pow_right (by decide) (by omega)
        _ ≤ nearest num den := pow_le_nearest hne
    · rw [Nat.not_lt]
      calc
        (2 ^ 54 - 1) * 2 ^ j * den ≤ 2 ^ 54 * 2 ^ j * den :=
          Nat.mul_le_mul_right den (Nat.mul_le_mul_right _ (by decide))
        _ = 2 ^ (54 + j) * den := by rw [pow_add]
        _ ≤ 2 ^ (num / den).log2 * den :=
          Nat.mul_le_mul_right den (Nat.pow_le_pow_right (by decide) (by omega))
        _ ≤ num := pow_mul_le hne

/-! ## Decimal numbers in range -/

/-- The numbers from here on are rounded to `2 ^ 1024`, which is out of range. -/
def overflowLimit : Nat := 2 ^ 1024 - 2 ^ 970

theorem overflowLimit_eq : overflowLimit = (2 ^ 54 - 1) * 2 ^ 970 := by
  rw [overflowLimit, Nat.sub_mul, ← pow_add, Nat.one_mul]

theorem overflowLimit_pos : 0 < overflowLimit := by
  rw [overflowLimit_eq]
  positivity

theorem unitsPerOne_eq : unitsPerOne = 2 ^ 1074 := by
  unfold unitsPerOne
  -- the power is not to be worked out
  generalize 1074 = n
  rfl

theorem unitsPerOne_pos : 0 < unitsPerOne := by
  rw [unitsPerOne_eq]
  generalize 1074 = n
  exact Nat.two_pow_pos n

theorem unitsLimit_eq : unitsLimit = 2 ^ (2044 + 54) := by
  rw [show 2044 + 54 = 2098 from rfl]
  unfold unitsLimit
  generalize 2098 = n
  rfl

theorem unitsLimit_pos : 0 < unitsLimit := by
  rw [unitsLimit_eq]
  generalize 2044 + 54 = n
  exact Nat.two_pow_pos n

theorem nearest_lt_unitsLimit_iff (hden : 0 < den) (digits : Nat) :
    nearest (digits * unitsPerOne) den < unitsLimit ↔ digits < overflowLimit * den := by
  have hscale : ∀ top shift unit : Nat, 0 < unit →
      (digits * unit < top * (shift * unit) * den ↔ digits < top * shift * den) := by
    intro top shift unit hunit
    rw [show top * (shift * unit) * den = top * shift * den * unit by ring]
    exact Nat.mul_lt_mul_right hunit
  have hpow : 2 ^ 2044 = 2 ^ 970 * unitsPerOne := by
    rw [unitsPerOne_eq, ← pow_add]
  rw [overflowLimit_eq, unitsLimit_eq, nearest_lt_pow_iff hden, hpow]
  exact hscale _ _ _ unitsPerOne_pos

/-- A number so small that it is not worked out is in range. -/
theorem lt_of_log2_lt {digits places : Nat} (hlog : digits.log2 + 1077 < 3 * places) :
    digits < overflowLimit * 10 ^ places := by
  calc
    digits < 2 ^ (digits.log2 + 1) := Nat.lt_log2_self
    _ ≤ 2 ^ (3 * places) := Nat.pow_le_pow_right (by decide) (by omega)
    _ = (2 ^ 3) ^ places := pow_mul 2 3 places
    _ ≤ 10 ^ places := Nat.pow_le_pow_left (by decide) places
    _ ≤ overflowLimit * 10 ^ places := Nat.le_mul_of_pos_left _ overflowLimit_pos

/-- Digits with so many of them behind the point are a number in range just if they are below
the limit, shifted by as many places. -/
theorem isSome_unitsOfDecimal?_iff (digits places : Nat) :
    (unitsOfDecimal? digits (-(places : Int))).isSome = true ↔
      digits < overflowLimit * 10 ^ places := by
  have hten : 0 < 10 ^ places := Nat.pow_pos (by decide)
  have hexponent : ¬ -(places : Int) > 310 := by omega
  unfold unitsOfDecimal?
  rw [if_neg hexponent]
  split
  · next hzero =>
    subst hzero
    exact iff_of_true rfl (Nat.mul_pos overflowLimit_pos hten)
  dsimp only
  rw [Option.isSome_ite]
  rcases Nat.eq_zero_or_pos places with rfl | hpos
  · have hnumerator : digits * Nat.pow 10 (-((0 : Nat) : Int)).toNat * unitsPerOne =
        digits * unitsPerOne := by
      simp only [Nat.cast_zero, neg_zero, Int.toNat_zero, Nat.pow_eq, pow_zero, mul_one]
    rw [if_pos (by omega), hnumerator, Nat.pow_zero]
    exact nearest_lt_unitsLimit_iff Nat.one_pos digits
  · rw [if_neg (by omega), Int.neg_neg, Int.toNat_natCast]
    split
    · next hlog => exact iff_of_true unitsLimit_pos (lt_of_log2_lt hlog)
    · exact nearest_lt_unitsLimit_iff hten digits

/-! ## Numbers that are not rounded -/

theorem roundQuotient_mul (hden : 0 < den) (q : Nat) : roundQuotient (q * den) den = q := by
  have hdiv : q * den / den = q := Nat.mul_div_cancel q hden
  have hmod : q * den % den = 0 := Nat.mul_mod_left q den
  have hcases := roundQuotient_cases (q * den) den
  rw [hdiv, hmod] at hcases
  omega

/-- A number whose lost places are all zero is not rounded. -/
theorem nearest_of_dvd (hdvd : 2 ^ lostPlaces num ∣ num) : nearest num 1 = num := by
  obtain ⟨q, hq⟩ := hdvd
  rw [Nat.mul_comm] at hq
  rw [nearest_eq, Nat.div_one, Nat.one_mul]
  generalize lostPlaces num = lost at hq ⊢
  rw [hq, roundQuotient_mul (Nat.two_pow_pos lost)]

theorem nearest_mul_pow {n : Nat} (hn : n ≤ 2 ^ 53) (places : Nat) :
    nearest (n * 2 ^ places) 1 = n * 2 ^ places := by
  apply nearest_of_dvd
  rw [lostPlaces]
  rcases Nat.eq_or_lt_of_le hn with rfl | hless
  · rw [← pow_add, Nat.log2_two_pow]
    exact pow_dvd_pow 2 (Nat.sub_le _ _)
  · have hlog : (n * 2 ^ places).log2 < 53 + places := by
      rcases Nat.eq_zero_or_pos n with rfl | hpos
      · rw [Nat.zero_mul, Nat.log2_zero]
        omega
      · have hne : n * 2 ^ places ≠ 0 := (Nat.mul_pos hpos (Nat.two_pow_pos places)).ne'
        rw [Nat.log2_lt hne, pow_add]
        exact Nat.mul_lt_mul_of_pos_right hless (Nat.two_pow_pos places)
    exact (pow_dvd_pow 2 (by omega)).mul_left n

/-- Whole numbers of 53 places, and the first one of 54, are not rounded. -/
theorem nearest_whole {n : Nat} (hn : n ≤ 2 ^ 53) :
    nearest (n * unitsPerOne) 1 = n * unitsPerOne := by
  rw [unitsPerOne_eq]
  exact nearest_mul_pow hn _

end FieldRules.Number.Binary64
