import FieldRules.Proofs.CountedCharacters
import FieldRules.Proofs.NumberBounds
import FieldRules.Proofs.NumberTexts

/-!
# Formats of numbers

Six rules ask for a number in a certain format.  They know the digits of every script and
rows of any length, where the reading of numbers knows ASCII digits and numbers in range.
A text that such a rule accepts is therefore not always a number for the rules with two
shapes, which then take its length.

* `exists_rough_of_mem_words`: the texts in these formats are laid out as numbers.
* `compares_of_resolve`: how a rule with two shapes compares a text.
* `measures_row`: how it compares a row of digits that is no number.
* `compares_of_accepted`: how it compares a text in one of the formats.
-/

namespace FieldRules.Rule

open Number Pattern Expr Patterns

variable {w : List Char} {e : Expr}

/-! ## The formats -/

/-- The keywords of the rules that ask for a number. -/
def numberFormats : List String :=
  ["int", "int_signed", "float", "float_signed", "numeric", "numeric_signed"]

/-- The patterns of the formats without a sign. -/
def unsignedBodies : List Expr :=
  [.rep .digit .some, .seqOf [.rep .digit .many, Patterns.word ".", .rep .digit .some],
    .seqOf [.rep .digit .many, optional (Patterns.word "."), .rep .digit .some]]

theorem exists_body_of_mem_numberFormats : ∀ entry ∈ entries, entry.name ∈ numberFormats →
    ∃ body ∈ unsignedBodies, entry.family = .fixed (.whole body) ∨
      entry.family = .fixed (.whole (.seq sign body)) := by
  decide +kernel

/-- Words that are laid out as a number without a sign. -/
def IsUnsigned (w : List Char) : Prop :=
  ∃ t : NumberText, t.sign = none ∧ t.Rough ∧ t.chars = w

theorem mem_many_iff : w ∈ (Expr.rep .digit .many).words ↔
    ∀ c ∈ w, CharSet.digit.contains c = true := by
  rw [Expr.words, mem_repeated_iff isClass_digit]
  simp [Within, Quantifier.bounds]

theorem mem_some_iff : w ∈ (Expr.rep .digit .some).words ↔
    w ≠ [] ∧ ∀ c ∈ w, CharSet.digit.contains c = true := by
  rw [Expr.words, mem_repeated_iff isClass_digit]
  simp [Within, Quantifier.bounds, Nat.one_le_iff_ne_zero]

theorem isUnsigned_row (hne : w ≠ []) (hdigit : ∀ c ∈ w, CharSet.digit.contains c = true) :
    IsUnsigned w := by
  refine ⟨⟨none, w, none⟩, rfl, ⟨nofun, ?_, ?_⟩, ?_⟩
  · simpa [NumberText.digits] using hdigit
  · simpa [NumberText.digits] using hne
  · simp [NumberText.chars]

theorem isUnsigned_rows {whole fraction : List Char}
    (hwhole : ∀ c ∈ whole, CharSet.digit.contains c = true) (hne : fraction ≠ [])
    (hfraction : ∀ c ∈ fraction, CharSet.digit.contains c = true) :
    IsUnsigned (whole ++ '.' :: fraction) := by
  refine ⟨⟨none, whole, some fraction⟩, rfl, ⟨nofun, ?_, ?_⟩, ?_⟩
  · exact List.forall_mem_append.2 ⟨hwhole, hfraction⟩
  · simp [NumberText.digits, hne]
  · simp [NumberText.chars]

theorem isClass_point : IsClass (Patterns.word ".") (· = '.') :=
  isClass_char_of_lt (by decide)

theorem isClass_sign : IsClass (oneOf [.char '-', .char '+']) (· ∈ ['-', '+']) :=
  isClass_oneOf_chars_of_lt ['-', '+'] (by simp)

theorem isUnsigned_of_mem_words : ∀ body ∈ unsignedBodies, ∀ w ∈ body.words, IsUnsigned w := by
  simp only [unsignedBodies, List.forall_mem_cons]
  refine ⟨fun w hw => ?_, fun w hw => ?_, fun w hw => ?_, nofun⟩
  · obtain ⟨hne, hdigit⟩ := mem_some_iff.1 hw
    exact isUnsigned_row hne hdigit
  · obtain ⟨whole, hwhole, rest, hrest, rfl⟩ := mem_words_seq_iff.1 hw
    obtain ⟨_, fraction, rfl, hfraction, rfl⟩ := isClass_point.mem_words_seq_iff.1 hrest
    obtain ⟨hne, hdigit⟩ := mem_some_iff.1 hfraction
    exact isUnsigned_rows (mem_many_iff.1 hwhole) hne hdigit
  · obtain ⟨whole, hwhole, rest, hrest, rfl⟩ := mem_words_seq_iff.1 hw
    obtain ⟨point, hpoint, fraction, hfraction, rfl⟩ := mem_words_seq_iff.1 hrest
    obtain ⟨hne, hdigit⟩ := mem_some_iff.1 hfraction
    rw [mem_many_iff] at hwhole
    rcases mem_words_optional_iff.1 hpoint with rfl | hpoint
    · -- without a point, both rows are one
      apply isUnsigned_row
      · simp [hne]
      · simpa using List.forall_mem_append.2 ⟨hwhole, hdigit⟩
    · obtain ⟨_, rfl, rfl⟩ := (isClass_point point).1 hpoint
      exact isUnsigned_rows hwhole hne hdigit

/-- A sign may stand before a number. -/
theorem exists_rough_of_mem_signed (hbody : ∀ w ∈ e.words, IsUnsigned w)
    (hw : w ∈ (Expr.seq sign e).words) : ∃ t : NumberText, t.Rough ∧ t.chars = w := by
  obtain ⟨mark, hmark, rest, hrest, rfl⟩ := mem_words_seq_iff.1 hw
  obtain ⟨t, hnone, hrough, rfl⟩ := hbody rest hrest
  rcases mem_words_optional_iff.1 hmark with rfl | hmark
  · exact ⟨t, hrough, rfl⟩
  · obtain ⟨c, hc, rfl⟩ := (isClass_sign mark).1 hmark
    refine ⟨{ t with sign := some c }, ⟨?_, hrough.digit, hrough.ne_nil⟩, ?_⟩
    · rintro d ⟨⟩
      exact hc
    · simp [NumberText.chars, hnone]

theorem isPlain_unsignedBodies : ∀ body ∈ unsignedBodies,
    body.isPlain = true ∧ (Expr.seq sign body).isPlain = true := by
  decide +kernel

/-! ## Texts in these formats -/

variable {clause next : Clause} {literal : Option LiteralPattern} {entry : Entry} {v u : Validator}
  {text : String} {bound : Bound} {others : String → Option String}

/-- A text that one of the rules accepts is laid out as a number. -/
theorem exists_rough_of_accepted (hentry : findEntry (normalize clause.name) = some entry)
    (hformat : entry.name ∈ numberFormats) (hresolve : clause.resolve literal = .ok v)
    (haccepted : v.passes? (some text) others = some true) :
    ∃ t : NumberText, t.Rough ∧ t.chars = text.toList := by
  have hmem := (of_findEntry hentry).1
  obtain ⟨body, hbody, hfamily⟩ := exists_body_of_mem_numberFormats entry hmem hformat
  have hplain := isPlain_unsignedBodies body hbody
  have hunsigned := isUnsigned_of_mem_words body hbody
  have hwords : ∀ {e}, entry.family = .fixed (.whole e) → e.isPlain = true →
      text.toList ∈ e.words := by
    intro e hfamily hplain
    exact (accepts_fixed_iff hentry hfamily hplain hresolve).1 haccepted
  rcases hfamily with hfamily | hfamily
  · obtain ⟨t, -, hrough, hchars⟩ := hunsigned _ (hwords hfamily hplain.1)
    exact ⟨t, hrough, hchars⟩
  · exact exists_rough_of_mem_signed hunsigned (hwords hfamily hplain.2)

/-- The rule for whole numbers without a sign asks for a row of digits. -/
theorem accepts_int_iff (hname : normalize clause.name = "int")
    (hresolve : clause.resolve literal = .ok v) :
    v.passes? (some text) others = some true ↔
      text.toList ≠ [] ∧ ∀ c ∈ text.toList, CharSet.digit.contains c = true := by
  have hentry : findEntry (normalize clause.name) =
      some ⟨"int", ["integer"], .fixed Patterns.integer, "INVALID_INTEGER"⟩ := by
    rw [hname]
    rfl
  rw [accepts_fixed_iff hentry rfl rfl hresolve, mem_some_iff]

/-! ## Rules with two shapes -/

/-- The validator compares the text as a number, and says so where it fails. -/
structure ComparesNumber (v : Validator) (bound : Bound) (params : List String) (text : String) :
    Prop where
  passes : ∀ others, v.passes? (some text) others = some true ↔
    ∃ x, Number.parse text = some x ∧ bound.AllowsNumber params x
  key : v.failureKey text = bound.numericKey

/-- The validator compares the length of the text, and says so where it fails. -/
structure ComparesLength (v : Validator) (bound : Bound) (params : List String) (text : String) :
    Prop where
  passes : ∀ others, v.passes? (some text) others = some true ↔
    bound.Allows params text.toList.length
  key : v.failureKey text = bound.lengthKey

theorem key_of_auto : ∀ entry ∈ entries, ∀ bound, entry.family = .auto bound →
    entry.key = bound.lengthKey := by
  have hall : ∀ entry ∈ entries, ∀ bound ∈ [Bound.exact, .min, .max, .between],
      entry.family = .auto bound → entry.key = bound.lengthKey := by
    decide +kernel
  intro entry hmem bound
  apply hall entry hmem bound
  cases bound <;> simp

/-- A rule with two shapes compares numbers with its bounds.  It compares the length of any
other text, if its bounds are counts. -/
theorem compares_of_resolve (hentry : findEntry (normalize clause.name) = some entry)
    (hfamily : entry.family = .auto bound) (hresolve : clause.resolve literal = .ok v)
    (text : String) :
    if (Number.parse text).isSome = true ∨ ¬ ∀ raw ∈ clause.params, (count? raw).isSome = true then
      ComparesNumber v bound clause.params text
    else
      ComparesLength v bound clause.params text := by
  have hmakes : entry.check? clause.params =
      some (bound.arity, autoCheck entry bound clause.params) := by
    unfold Entry.check?
    rw [hfamily]
  obtain ⟨hmade, hadmits⟩ := of_resolve_ok hentry hmakes hresolve
  obtain ⟨length, number, hcheck, hnumber, hcounts, hlength⟩ := autoCheck_eq_ok hmade
  have hplaces := admits_arity_iff.1 hadmits
  simp only [← hcounts]
  -- the shape that the text chooses decides, and gives its key
  have hchosen : ∀ shape, chooseShape length ⟨bound.numericKey, number⟩ text = shape →
      (∀ others, v.passes? (some text) others = some (shape.test.passes (some text))) ∧
        v.failureKey text = shape.key := by
    rintro shape rfl
    unfold Validator.passes? Validator.failureKey
    rw [hcheck]
    exact ⟨fun _ => rfl, rfl⟩
  unfold chooseShape at hchosen
  split
  · next hnumeric =>
    have hnumber' : (if (Number.parse text).isSome = true then Shape.mk bound.numericKey number
        else length.getD ⟨bound.numericKey, number⟩) = ⟨bound.numericKey, number⟩ := by
      rcases hnumeric with hparse | hnone
      · rw [if_pos hparse]
      · rw [Option.not_isSome_iff_eq_none.1 hnone, Option.getD_none, ite_self]
    obtain ⟨hpasses, hkey⟩ := hchosen _ hnumber'
    refine ⟨fun others => ?_, hkey⟩
    rw [hpasses, Option.some.injEq, passes_numberTest_iff hplaces hnumber]
  · next hmeasured =>
    rw [not_or, not_not] at hmeasured
    obtain ⟨shape, hshape⟩ := Option.isSome_iff_exists.1 hmeasured.2
    have hlength' : (if (Number.parse text).isSome = true then Shape.mk bound.numericKey number
        else length.getD ⟨bound.numericKey, number⟩) = shape := by
      rw [if_neg hmeasured.1, hshape, Option.getD_some]
    obtain ⟨hpasses, hkey⟩ := hchosen _ hlength'
    obtain ⟨hshapeKey, htest⟩ := hlength shape hshape
    refine ⟨fun others => ?_, ?_⟩
    · rw [hpasses, Option.some.injEq, passes_lengthTest_iff hplaces htest]
    · rw [hkey, hshapeKey, key_of_auto entry (of_findEntry hentry).1 bound hfamily]

/-- A row of digits that are not all of ASCII, or stand for a number out of range, is accepted
as a whole number and measured by a rule with two shapes. -/
theorem measures_row (hname : normalize clause.name = "int")
    (hresolve : clause.resolve literal = .ok v)
    (hauto : findEntry (normalize next.name) = some entry) (hfamily : entry.family = .auto bound)
    (hu : next.resolve literal = .ok u) (hcounts : ∀ raw ∈ next.params, (count? raw).isSome = true)
    (hne : text.toList ≠ []) (hdigit : ∀ c ∈ text.toList, CharSet.digit.contains c = true)
    (hlimit : (∀ c ∈ text.toList, c.isDigit = true) →
      Binary64.overflowLimit ≤ Text.digitsValue text.toList) :
    v.passes? (some text) others = some true ∧ Number.parse text = none ∧
      ComparesLength u bound next.params text := by
  have hparse : ¬ (Number.parse text).isSome = true := by
    rw [parse_row_isSome_iff hne hdigit]
    rintro ⟨hascii, hless⟩
    exact absurd (hlimit hascii) (Nat.not_le.2 hless)
  have hcompares := compares_of_resolve hauto hfamily hu text
  rw [if_neg (not_or.2 ⟨hparse, not_not.2 hcounts⟩)] at hcompares
  exact ⟨(accepts_int_iff hname hresolve).2 ⟨hne, hdigit⟩,
    Option.not_isSome_iff_eq_none.1 hparse, hcompares⟩

/-- What a rule for a format of numbers accepts is read as a number just if its digits are
those of ASCII and the number is in range.  A rule with two shapes next to it then compares
it as a number.  Otherwise it compares its length, or, if its bounds are no counts, again a
number, which the text is not. -/
theorem compares_of_accepted (hentry : findEntry (normalize clause.name) = some entry)
    (hformat : entry.name ∈ numberFormats) (hresolve : clause.resolve literal = .ok v)
    (haccepted : v.passes? (some text) others = some true) :
    ∃ t : NumberText, t.Rough ∧ t.chars = text.toList ∧
      ((Number.parse text).isSome = true ↔ t.Readable) ∧
      ∀ {next : Clause} {auto : Entry} {bound : Bound} {u : Validator},
        findEntry (normalize next.name) = some auto → auto.family = .auto bound →
        next.resolve literal = .ok u →
          (t.Readable → ComparesNumber u bound next.params text) ∧
          (¬ t.Readable → (∀ raw ∈ next.params, (count? raw).isSome = true) →
            ComparesLength u bound next.params text) ∧
          (¬ t.Readable → (¬ ∀ raw ∈ next.params, (count? raw).isSome = true) →
            ComparesNumber u bound next.params text ∧
              u.passes? (some text) others ≠ some true) := by
  obtain ⟨t, hrough, hchars⟩ := exists_rough_of_accepted hentry hformat hresolve haccepted
  have hreadable := parse_isSome_iff hrough hchars
  refine ⟨t, hrough, hchars, hreadable, ?_⟩
  intro next auto bound u hnext hfamily hu
  have hcompares := compares_of_resolve hnext hfamily hu text
  refine ⟨fun hread => ?_, fun hread hcounts => ?_, fun hread hcounts => ?_⟩
  · rwa [if_pos (.inl (hreadable.2 hread))] at hcompares
  · rw [← hreadable] at hread
    rwa [if_neg (not_or.2 ⟨hread, not_not.2 hcounts⟩)] at hcompares
  · rw [if_pos (.inr hcounts)] at hcompares
    refine ⟨hcompares, ?_⟩
    rw [← hreadable, Option.not_isSome_iff_eq_none] at hread
    rw [Ne, hcompares.passes, hread]
    rintro ⟨x, hx, -⟩
    cases hx

/-- A short number next to a bound. -/
theorem compares_small_number : ∃ v,
    Clause.resolve ⟨"max", ["10"], none⟩ none = .ok v ∧
      ComparesNumber v .max ["10"] "-2.5" := by
  let clause : Clause := ⟨"numericSigned", [], none⟩
  let next : Clause := ⟨"max", ["10"], none⟩
  have hname : normalize clause.name = "numeric_signed" := by decide +kernel
  have hentry : findEntry (normalize clause.name) = some
      ⟨"numeric_signed", [], .fixed Patterns.numericSigned, "INVALID_NUMERIC_SIGNED"⟩ := by
    rw [hname]
    rfl
  have hmax : normalize next.name = "max" := by decide +kernel
  have hauto : findEntry (normalize next.name) =
      some ⟨"max", [], .auto .max, Bound.max.lengthKey⟩ := by
    rw [hmax]
    rfl
  have hsome : ((clause.resolve none).toOption).isSome = true ∧
      ((next.resolve none).toOption).isSome = true := by
    decide +kernel
  obtain ⟨format, hformat⟩ := Option.isSome_iff_exists.1 hsome.1
  obtain ⟨v, hv⟩ := Option.isSome_iff_exists.1 hsome.2
  have haccepted : format.passes? (some "-2.5") (fun _ => none) = some true := by
    have hall : ((clause.resolve none).toOption).all
        (fun v => v.passes? (some "-2.5") (fun _ => none) == some true) = true := by
      decide +kernel
    rw [hformat] at hall
    exact beq_iff_eq.1 hall
  have hparse : (Number.parse "-2.5").isSome = true := by decide +kernel
  have hresolve := eq_ok_of_toOption hv
  obtain ⟨t, -, -, hreadable, hnext⟩ :=
    compares_of_accepted hentry (by decide) (eq_ok_of_toOption hformat) haccepted
  exact ⟨v, hresolve, (hnext hauto rfl hresolve).1 (hreadable.1 hparse)⟩

/-- A row of many digits and one of another script, next to a bound that both exceed as
numbers. -/
theorem not_compares_long_number : ∃ v u,
    Clause.resolve ⟨"int", [], none⟩ none = .ok v ∧
      Clause.resolve ⟨"max", ["500"], none⟩ none = .ok u ∧
        ∀ text ∈ [String.ofList ('1' :: List.replicate 400 '0'), "٩٩٩"],
          v.passes? (some text) (fun _ => none) = some true ∧ Number.parse text = none ∧
            u.passes? (some text) (fun _ => none) = some true ∧
              u.failureKey text = Bound.max.lengthKey := by
  let next : Clause := ⟨"max", ["500"], none⟩
  have hmax : normalize next.name = "max" := by decide +kernel
  have hauto : findEntry (normalize next.name) =
      some ⟨"max", [], .auto .max, Bound.max.lengthKey⟩ := by
    rw [hmax]
    rfl
  have hsome : ((Clause.resolve ⟨"int", [], none⟩ none).toOption).isSome = true ∧
      ((next.resolve none).toOption).isSome = true := by
    decide +kernel
  obtain ⟨v, hv⟩ := Option.isSome_iff_exists.1 hsome.1
  obtain ⟨u, hu⟩ := Option.isSome_iff_exists.1 hsome.2
  have hv := eq_ok_of_toOption hv
  have hu := eq_ok_of_toOption hu
  refine ⟨v, u, hv, hu, fun text htext => ?_⟩
  have hlong : Binary64.overflowLimit ≤ Text.digitsValue ('1' :: List.replicate 400 '0') := by
    decide +kernel
  have hrow : text.toList ≠ [] ∧ (∀ c ∈ text.toList, CharSet.digit.contains c = true) ∧
      text.toList.length ≤ 500 ∧ ((∀ c ∈ text.toList, c.isDigit = true) →
        Binary64.overflowLimit ≤ Text.digitsValue text.toList) := by
    simp only [List.mem_cons, List.not_mem_nil, or_false] at htext
    rcases htext with rfl | rfl
    · rw [String.toList_ofList]
      refine ⟨List.cons_ne_nil _ _, ?_, by rw [List.length_cons, List.length_replicate]; omega,
        fun _ => hlong⟩
      have hdigits : CharSet.digit.contains '1' = true ∧ CharSet.digit.contains '0' = true := by
        decide +kernel
      refine List.forall_mem_cons.2 ⟨hdigits.1, fun c hc => ?_⟩
      rw [List.eq_of_mem_replicate hc]
      exact hdigits.2
    · have hrow : "٩٩٩".toList = List.replicate 3 '٩' := by decide +kernel
      have hdigit : CharSet.digit.contains '٩' = true ∧ '٩'.isDigit = false := by decide +kernel
      rw [hrow]
      refine ⟨List.cons_ne_nil _ _, fun c hc => ?_, by simp, fun hascii => ?_⟩
      · rw [List.eq_of_mem_replicate hc]
        exact hdigit.1
      · exact absurd (hascii '٩' (by simp)) (by simp [hdigit.2])
  obtain ⟨hne, hdigits, hlength, hvalue⟩ := hrow
  have hcount : count? "500" = some 500 := by decide +kernel
  have hcounts : ∀ raw ∈ next.params, (count? raw).isSome = true := by
    refine List.forall_mem_singleton.2 ?_
    rw [hcount]
    rfl
  obtain ⟨haccepted, hparse, hcompares⟩ :=
    measures_row rfl hv hauto rfl hu hcounts hne hdigits hvalue
  exact ⟨haccepted, hparse, (hcompares.passes _).2 ⟨500, hcount, hlength⟩, hcompares.key⟩

end FieldRules.Rule
