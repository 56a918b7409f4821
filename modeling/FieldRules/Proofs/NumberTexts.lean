import FieldRules.Proofs.Cutting
import FieldRules.Proofs.Numerals
import FieldRules.Proofs.Rounding

/-!
# Numbers as they are written

A `NumberText` is a number laid out in its parts: a sign perhaps, digits, and perhaps a
point with digits behind it.  The digits may be of any script.

* `read?_chars`: such a text is read as a decimal number just if its digits are those of
  ASCII.
* `parse_isSome_iff`: it is a number of double precision just if it is also in range.
-/

namespace FieldRules.Number

open Text Pattern

/-! ## Layouts -/

/-- A number as it is written. -/
structure NumberText where
  sign : Option Char
  whole : List Char
  fraction : Option (List Char)

namespace NumberText

/-- The whole text. -/
def chars (t : NumberText) : List Char :=
  t.sign.toList ++ (t.whole ++ t.fraction.elim [] ('.' :: ·))

/-- The digits on both sides of the point. -/
def digits (t : NumberText) : List Char :=
  t.whole ++ t.fraction.getD []

/-- How many digits stand behind the point. -/
def places (t : NumberText) : Nat :=
  (t.fraction.getD []).length

/-- The parts are a sign and digits of any script, and there is a digit. -/
structure Rough (t : NumberText) : Prop where
  sign : ∀ c ∈ t.sign, c ∈ ['-', '+']
  digit : ∀ c ∈ t.digits, CharSet.digit.contains c = true
  ne_nil : t.digits ≠ []

/-- The digits are those of ASCII, and the number is below the limit, shifted by the digits
behind the point. -/
structure Readable (t : NumberText) : Prop where
  isDigit : ∀ c ∈ t.digits, c.isDigit = true
  inRange : digitsValue t.digits < Binary64.overflowLimit * 10 ^ t.places

end NumberText

variable {t : NumberText} {row rest : List Char} {c : Char} {text : String}

/-! ## Signs and digits -/

theorem takeSign_of_head {text : List Char} (hhead : ∀ c ∈ text.head?, c ∉ ['-', '+']) :
    takeSign text = (false, text) := by
  unfold takeSign
  split
  · exact absurd (by simp) (hhead '-' rfl)
  · exact absurd (by simp) (hhead '+' rfl)
  · rfl

theorem not_mark_of_digit (hdigit : CharSet.digit.contains c = true) :
    c ∉ ['-', '+', '.'] := by
  have hcode := toNat_of_digit hdigit
  simp only [List.mem_cons, List.not_mem_nil, or_false, not_or]
  refine ⟨?_, ?_, ?_⟩ <;> rintro rfl <;> simp at hcode

/-- An exponent does not start with a digit. -/
theorem readExponent_of_digit (hdigit : CharSet.digit.contains c = true)
    (hnot : c.isDigit = false) : readExponent (c :: rest) = none := by
  have hletter : c ≠ 'e' ∧ c ≠ 'E' := by
    constructor
    all_goals
      rintro rfl
      exact absurd (toNat_of_digit hdigit) (by decide)
  simp [readExponent, hletter]

/-- Reading ASCII digits stops at the first digit of another script. -/
theorem exists_dropWhile_isDigit (hall : ¬ ∀ c ∈ row, c.isDigit = true) (rest : List Char) :
    ∃ c more, (row ++ rest).dropWhile Char.isDigit = c :: more ∧ c ∈ row ∧ c.isDigit = false := by
  induction row with
  | nil => exact absurd nofun hall
  | cons head row ih =>
    cases hhead : head.isDigit with
    | false =>
      refine ⟨head, row ++ rest, ?_, List.mem_cons_self, hhead⟩
      rw [List.cons_append, List.dropWhile_cons_of_neg (by simp [hhead])]
    | true =>
      rw [List.forall_mem_cons, not_and] at hall
      obtain ⟨c, more, hdrop, hmem, hc⟩ := ih (hall hhead)
      refine ⟨c, more, ?_, List.mem_cons_of_mem head hmem, hc⟩
      rw [List.cons_append, List.dropWhile_cons_of_pos hhead, hdrop]

/-! ## Reading a number -/

/-- The text behind the sign. -/
def NumberText.body (t : NumberText) : List Char :=
  t.whole ++ t.fraction.elim [] ('.' :: ·)

/-- The sign is taken off, and nothing else. -/
theorem takeSign_chars (hrough : t.Rough) :
    takeSign t.chars = (decide (t.sign = some '-'), t.body) := by
  unfold NumberText.chars
  cases hsign : t.sign with
  | none =>
    -- a digit or the point comes first
    apply takeSign_of_head
    intro c hc
    rw [Option.toList_none, List.nil_append] at hc
    cases hwhole : t.whole with
    | cons head whole =>
      rw [hwhole] at hc
      obtain rfl : head = c := by simpa using hc
      have hdigit := hrough.digit head (by simp [NumberText.digits, hwhole])
      have := not_mark_of_digit hdigit
      simp_all
    | nil =>
      rw [hwhole, List.nil_append] at hc
      cases hfraction : t.fraction with
      | none => simp [hfraction] at hc
      | some row =>
        obtain rfl : '.' = c := by simpa [hfraction] using hc
        decide
  | some c =>
    have hmem := hrough.sign c hsign
    rw [List.mem_cons, List.mem_singleton] at hmem
    rcases hmem with rfl | rfl
    · rfl
    · rfl

theorem read?_of_isDigit (hrough : t.Rough) (hdigits : ∀ c ∈ t.digits, c.isDigit = true) :
    Decimal.read? t.chars =
      some ⟨decide (t.sign = some '-'), digitsValue t.digits, -(t.places : Int)⟩ := by
  have hsign := takeSign_chars hrough
  have hne := hrough.ne_nil
  unfold Decimal.read?
  rw [hsign]
  dsimp only
  unfold NumberText.digits at hdigits hne
  unfold NumberText.body NumberText.digits NumberText.places
  have hend : ∀ c ∈ ([] : List Char).head?, c.isDigit = false := nofun
  cases hfraction : t.fraction with
  | none =>
    rw [hfraction, Option.getD_none, List.append_nil] at hdigits hne
    obtain ⟨htake, hdrop⟩ := takeWhile_dropWhile_append hdigits hend
    rw [Option.elim_none, htake, hdrop]
    simp [readExponent, hne]
  | some row =>
    rw [hfraction, Option.getD_some, List.forall_mem_append] at hdigits
    rw [hfraction, Option.getD_some] at hne
    have hpoint : ∀ c ∈ ('.' :: row).head?, c.isDigit = false := by simp
    obtain ⟨htake, hdrop⟩ := takeWhile_dropWhile_append hdigits.1 hpoint
    obtain ⟨htake', hdrop'⟩ := takeWhile_dropWhile_append hdigits.2 hend
    rw [List.append_nil] at htake' hdrop'
    rw [Option.elim_some, htake, hdrop]
    simpa [readExponent, htake', hdrop'] using hne

/-- Digits of other scripts are not read, wherever they stand. -/
theorem read?_eq_none (hrough : t.Rough) (hdigits : ¬ ∀ c ∈ t.digits, c.isDigit = true) :
    Decimal.read? t.chars = none := by
  have hsign := takeSign_chars hrough
  have hdigit := hrough.digit
  unfold Decimal.read?
  rw [hsign]
  dsimp only
  unfold NumberText.digits at hdigits hdigit
  unfold NumberText.body
  by_cases hwhole : ∀ c ∈ t.whole, c.isDigit = true
  · cases hfraction : t.fraction with
    | none =>
      rw [hfraction, Option.getD_none, List.append_nil] at hdigits
      exact absurd hwhole hdigits
    | some row =>
      rw [hfraction, Option.getD_some, List.forall_mem_append] at hdigits hdigit
      have hpoint : ∀ c ∈ ('.' :: row).head?, c.isDigit = false := by simp
      obtain ⟨-, hdrop⟩ := takeWhile_dropWhile_append hwhole hpoint
      obtain ⟨c, more, hdrop', hmem, hc⟩ :=
        exists_dropWhile_isDigit (fun hrow => hdigits ⟨hwhole, hrow⟩) []
      rw [List.append_nil] at hdrop'
      simp [hdrop, hdrop', readExponent_of_digit (hdigit.2 c hmem) hc]
  · obtain ⟨c, more, hdrop, hmem, hc⟩ :=
      exists_dropWhile_isDigit hwhole (t.fraction.elim [] ('.' :: ·))
    have hcontains := hdigit c (List.mem_append_left _ hmem)
    have hpoint := not_mark_of_digit hcontains
    rw [hdrop]
    split
    · next heq =>
      cases heq
      exact absurd (by simp) hpoint
    · rw [readExponent_of_digit hcontains hc]
      rfl

theorem notBlank_chars (hrough : t.Rough) : ∀ c ∈ t.chars, isBlank c = false := by
  have hmarks : ∀ c ∈ ['-', '+', '.'], isBlank c = false := by
    simp only [List.forall_mem_cons, List.not_mem_nil, false_implies, implies_true, and_true]
    decide +kernel
  intro c hc
  by_cases hdigit : c ∈ t.digits
  · exact notBlank_of_digit (hrough.digit c hdigit)
  · apply hmarks
    unfold NumberText.digits at hdigit
    unfold NumberText.chars at hc
    rw [List.mem_append, List.mem_append, Option.mem_toList] at hc
    rcases hc with hsign | hwhole | hfraction
    · have := hrough.sign c hsign
      simp only [List.mem_cons, List.not_mem_nil, or_false] at this ⊢
      exact or_assoc.1 (.inl this)
    · exact absurd (List.mem_append_left _ hwhole) hdigit
    · cases hrow : t.fraction with
      | none =>
        rw [hrow] at hfraction
        cases hfraction
      | some row =>
        rw [hrow, Option.elim_some, List.mem_cons] at hfraction
        rw [hrow] at hdigit
        rcases hfraction with rfl | hmem
        · simp
        · exact absurd (List.mem_append_right _ hmem) hdigit

theorem Binary64.isSome_ofDecimal? (d : Decimal) :
    (ofDecimal? d).isSome = (unitsOfDecimal? d.digits d.exponent).isSome := by
  unfold ofDecimal?
  cases unitsOfDecimal? d.digits d.exponent <;> rfl

/-- The number a text writes down is read just if its digits are those of ASCII and it is in
range. -/
theorem parse_isSome_iff (hrough : t.Rough) (htext : t.chars = text.toList) :
    (parse text).isSome = true ↔ t.Readable := by
  unfold parse
  rw [← htext, trim_eq_self_of_notBlank (notBlank_chars hrough)]
  by_cases hdigits : ∀ c ∈ t.digits, c.isDigit = true
  · rw [read?_of_isDigit hrough hdigits, Option.bind_some, Binary64.isSome_ofDecimal?,
      Binary64.isSome_unitsOfDecimal?_iff]
    exact ⟨fun hrange => ⟨hdigits, hrange⟩, NumberText.Readable.inRange⟩
  · rw [read?_eq_none hrough hdigits]
    exact iff_of_false Bool.false_ne_true fun hreadable => hdigits hreadable.isDigit

/-- Whole numbers are rounded like any other. -/
theorem Binary64.unitsOfDecimal?_whole {n : Nat} (hrange : n < overflowLimit) :
    unitsOfDecimal? n 0 = some (nearest (n * unitsPerOne) 1) := by
  have hunits : nearest (n * unitsPerOne) 1 < unitsLimit := by
    rwa [nearest_lt_unitsLimit_iff Nat.one_pos, Nat.mul_one]
  have hscale : n * Nat.pow 10 (0 : Int).toNat * unitsPerOne = n * unitsPerOne := by simp
  unfold unitsOfDecimal?
  split
  · next hzero =>
    rw [hzero, Nat.zero_mul]
    rfl
  · rw [if_neg (by decide)]
    dsimp only
    rw [if_pos (ge_iff_le.2 (Int.le_refl 0)), hscale, if_pos hunits]

theorem Binary64.ofDecimal?_of_units {d : Decimal} {units : Nat}
    (h : unitsOfDecimal? d.digits d.exponent = some units) :
    ofDecimal? d = some ⟨if d.negative then -(units : Int) else units⟩ := by
  unfold ofDecimal?
  rw [h]
  rfl

/-- A text without a point is the whole number of its digits, rounded, with its sign. -/
theorem parse_of_whole (hrough : t.Rough) (hfraction : t.fraction = none)
    (hdigits : ∀ c ∈ t.digits, c.isDigit = true)
    (hrange : digitsValue t.digits < Binary64.overflowLimit)
    (htext : trim text.toList = t.chars) :
    parse text = some ⟨if t.sign = some '-'
      then -(Binary64.nearest (digitsValue t.digits * Binary64.unitsPerOne) 1 : Int)
      else Binary64.nearest (digitsValue t.digits * Binary64.unitsPerOne) 1⟩ := by
  have hplaces : -(t.places : Int) = 0 := by simp [NumberText.places, hfraction]
  have hunits := Binary64.unitsOfDecimal?_whole hrange
  rw [parse, htext, read?_of_isDigit hrough hdigits, hplaces, Option.bind_some,
    Binary64.ofDecimal?_of_units hunits]
  simp only [decide_eq_true_eq]

/-- A text of digits with a plus sign or without one is the whole number of its digits. -/
theorem parse_of_looseNumeral {limit n : Nat} (hlimit : limit ≤ Binary64.overflowLimit)
    (hnumeral : LooseNumeral limit (trim text.toList) n) :
    parse text = some ⟨Binary64.nearest (n * Binary64.unitsPerOne) 1⟩ := by
  obtain ⟨row, htext, hne, hdigits, rfl, hless⟩ := hnumeral
  obtain ⟨sign, hsign, hchars⟩ : ∃ sign : Option Char, sign ∈ [none, some '+'] ∧
      trim text.toList = (NumberText.mk sign row none).chars := by
    rcases htext with htext | htext
    · exact ⟨none, by simp, by simp [NumberText.chars, htext]⟩
    · exact ⟨some '+', by simp, by simp [NumberText.chars, htext]⟩
  have hrow : (NumberText.mk sign row none).digits = row := List.append_nil row
  have hrough : (NumberText.mk sign row none).Rough := by
    refine ⟨fun c hc => ?_, fun c hc => ?_, by rwa [hrow]⟩
    · obtain rfl : sign = some c := hc
      simp at hsign
      simp [hsign]
    · rw [hrow] at hc
      exact digit_contains_of_isDigit (hdigits c hc)
  have hplus : sign ≠ some '-' := by
    rintro rfl
    simp at hsign
  have hparse := parse_of_whole hrough rfl (by rwa [hrow]) (by rw [hrow]; omega) hchars
  rwa [if_neg hplus, hrow] at hparse

/-- Digits alone are a whole number. -/
theorem parse_row_isSome_iff (hne : text.toList ≠ [])
    (hdigit : ∀ c ∈ text.toList, CharSet.digit.contains c = true) :
    (parse text).isSome = true ↔ (∀ c ∈ text.toList, c.isDigit = true) ∧
      digitsValue text.toList < Binary64.overflowLimit := by
  have hdigits : (NumberText.mk none text.toList none).digits = text.toList :=
    List.append_nil text.toList
  have hrough : (NumberText.mk none text.toList none).Rough := by
    refine ⟨nofun, ?_, ?_⟩
    · rwa [hdigits]
    · rwa [hdigits]
  rw [parse_isSome_iff hrough (by simp [NumberText.chars])]
  constructor
  · rintro ⟨hascii, hrange⟩
    rw [hdigits] at hascii hrange
    exact ⟨hascii, by simpa [NumberText.places] using hrange⟩
  · rintro ⟨hascii, hrange⟩
    refine ⟨by rwa [hdigits], ?_⟩
    simpa [hdigits, NumberText.places] using hrange

end FieldRules.Number
