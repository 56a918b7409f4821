import FieldRules.Proofs.NumberFormats

/-!
# Whole numbers and their bounds

Values and bounds are texts, and each is rounded to double precision before they are
compared.  Whole numbers up to `2 ^ 53` are not changed by that, however they are spelled, so
rules on numbers compare them exactly.

* `WritesWhole`: the texts of a whole number.
* `parse_of_writesWhole`: a small whole number is read as itself.
* `Bound.AllowsWhole`, `allowsNumber_iff_allowsWhole`: the whole numbers between bounds.
* `Rule.accepts_whole_iff`: what rules on numbers say of whole numbers.
-/

namespace FieldRules

namespace Number

open Text

variable {text : String} {w : List Char} {x : Int}

/-! ## Texts of whole numbers -/

/-- A row of ASCII digits, the first of which may be zeros, with a sign or without. -/
inductive SpellsWhole : List Char → Int → Prop
  | bare {row : List Char} (hne : row ≠ []) (hdigits : ∀ c ∈ row, c.isDigit = true) :
      SpellsWhole row (digitsValue row)
  | plus {row : List Char} (hne : row ≠ []) (hdigits : ∀ c ∈ row, c.isDigit = true) :
      SpellsWhole ('+' :: row) (digitsValue row)
  | minus {row : List Char} (hne : row ≠ []) (hdigits : ∀ c ∈ row, c.isDigit = true) :
      SpellsWhole ('-' :: row) (-(digitsValue row : Int))

/-- The text spells a whole number of absolute value at most `2 ^ 53`, maybe with blanks
around it. -/
structure WritesWhole (text : String) (x : Int) : Prop where
  spelled : ∃ front spelling back, text.toList = front ++ (spelling ++ back) ∧
    (∀ c ∈ front ++ back, isBlank c = true) ∧ SpellsWhole spelling x
  small : x.natAbs ≤ 2 ^ 53

/-- A spelling is laid out as a number without a point. -/
theorem SpellsWhole.exists_text (hspells : SpellsWhole w x) :
    ∃ t : NumberText, t.chars = w ∧ t.Rough ∧ t.fraction = none ∧
      (∀ c ∈ t.digits, c.isDigit = true) ∧
      x = if t.sign = some '-' then -(digitsValue t.digits : Int) else digitsValue t.digits := by
  have hlayout : ∀ (sign : Option Char) (row : List Char), row ≠ [] →
      (∀ c ∈ row, c.isDigit = true) → (∀ c ∈ sign, c ∈ ['-', '+']) →
        (NumberText.mk sign row none).digits = row ∧ (NumberText.mk sign row none).Rough := by
    intro sign row hne hdigits hsign
    have hrow : (NumberText.mk sign row none).digits = row := List.append_nil row
    refine ⟨hrow, hsign, ?_, by rwa [hrow]⟩
    rw [hrow]
    exact fun c hc => digit_contains_of_isDigit (hdigits c hc)
  cases hspells with
  | bare hne hdigits =>
    obtain ⟨hrow, hrough⟩ := hlayout none w hne hdigits nofun
    refine ⟨⟨none, w, none⟩, by simp [NumberText.chars], hrough, rfl, by rwa [hrow], ?_⟩
    rw [hrow, if_neg (by simp)]
  | @plus row hne hdigits =>
    obtain ⟨hrow, hrough⟩ := hlayout (some '+') row hne hdigits (by simp)
    refine ⟨⟨some '+', row, none⟩, by simp [NumberText.chars], hrough, rfl, by rwa [hrow], ?_⟩
    rw [hrow, if_neg (by simp)]
  | @minus row hne hdigits =>
    obtain ⟨hrow, hrough⟩ := hlayout (some '-') row hne hdigits (by simp)
    refine ⟨⟨some '-', row, none⟩, by simp [NumberText.chars], hrough, rfl, by rwa [hrow], ?_⟩
    rw [hrow, if_pos rfl]

/-- Whole numbers up to `2 ^ 53` are read as themselves. -/
theorem parse_of_writesWhole (hwrites : WritesWhole text x) :
    parse text = some ⟨x * Binary64.unitsPerOne⟩ := by
  obtain ⟨⟨front, spelling, back, htext, hblanks, hspells⟩, hsmall⟩ := hwrites
  obtain ⟨t, rfl, hrough, hfraction, hdigits, rfl⟩ := hspells.exists_text
  rw [List.forall_mem_append] at hblanks
  have htrim : trim text.toList = t.chars := by
    rw [htext, trim_blank_append hblanks.1, trim_append_of_blank hblanks.2,
      trim_eq_self_of_notBlank (notBlank_chars hrough)]
  have hvalue : digitsValue t.digits ≤ 2 ^ 53 := by
    split at hsmall <;> omega
  have hlimit : 2 ^ 53 < Binary64.overflowLimit := by decide +kernel
  rw [parse_of_whole hrough hfraction hdigits (hvalue.trans_lt hlimit) htrim,
    Binary64.nearest_whole hvalue]
  congr 2
  split
  · rw [Nat.cast_mul, Int.neg_mul]
  · rw [Nat.cast_mul]

end Number

/-! ## Whole numbers between bounds -/

namespace Rule

open Number

variable {bound : Bound} {params : List String} {bounds : List Int} {x : Int}

/-- The whole number is one that the bounds allow. -/
def Bound.AllowsWhole (bound : Bound) (bounds : List Int) (x : Int) : Prop :=
  match bound, bounds with
  | exact, [value] => x = value
  | min, [least] => least ≤ x
  | max, [greatest] => x ≤ greatest
  | between, [least, greatest] => least ≤ x ∧ x ≤ greatest
  | _, _ => False

/-- Whole numbers are ordered as the numbers of double precision are that they are read as. -/
theorem units_le_iff {a b : Int} :
    a * (Binary64.unitsPerOne : Int) ≤ b * Binary64.unitsPerOne ↔ a ≤ b :=
  Int.mul_le_mul_right (Int.natCast_pos.2 Binary64.unitsPerOne_pos)

theorem units_eq_iff {a b : Int} :
    a * (Binary64.unitsPerOne : Int) = b * Binary64.unitsPerOne ↔ b = a := by
  rw [Int.mul_eq_mul_right_iff (Int.natCast_pos.2 Binary64.unitsPerOne_pos).ne', eq_comm]

/-- Among bounds that are whole numbers, double precision tells whole numbers apart. -/
theorem allowsNumber_iff_allowsWhole (hplaces : params.length = bound.places)
    (hbounds : List.Forall₂ WritesWhole params bounds) :
    bound.AllowsNumber params ⟨x * Binary64.unitsPerOne⟩ ↔ bound.AllowsWhole bounds x := by
  cases bound with
  | exact | min | max =>
    obtain ⟨raw, rfl⟩ := List.length_eq_one_iff.1 hplaces
    obtain ⟨a, rest, hraw, hrest, rfl⟩ := List.forall₂_cons_left_iff.1 hbounds
    obtain rfl := List.forall₂_nil_left_iff.1 hrest
    simp only [Bound.AllowsNumber, Bound.AllowsWhole, parse_of_writesWhole hraw,
      Option.some.injEq, Binary64.mk.injEq, exists_eq_left', units_le_iff, units_eq_iff]
  | between =>
    obtain ⟨lo, hi, rfl⟩ := List.length_eq_two.1 hplaces
    obtain ⟨a, more, hlo, hmore, rfl⟩ := List.forall₂_cons_left_iff.1 hbounds
    obtain ⟨b, rest, hhi, hrest, rfl⟩ := List.forall₂_cons_left_iff.1 hmore
    obtain rfl := List.forall₂_nil_left_iff.1 hrest
    simp only [Bound.AllowsNumber, Bound.AllowsWhole, parse_of_writesWhole hlo,
      parse_of_writesWhole hhi, Option.some.injEq, exists_and_left, exists_eq_left', units_le_iff]

/-! ## Rules on numbers -/

variable {clause : Clause} {literal : Option LiteralPattern} {entry : Entry} {v : Validator}

/-- The keywords tell the families of rules that compare numbers. -/
theorem family_of_name (hmem : entry ∈ entries) (bound : Bound) :
    (entry.name = bound.numberKeyword → entry.family = .number bound) ∧
      (entry.name = bound.keyword → entry.family = .auto bound) := by
  have hall : ∀ entry ∈ entries, ∀ bound ∈ [Bound.exact, .min, .max, .between],
      (entry.name = bound.numberKeyword → entry.family = .number bound) ∧
        (entry.name = bound.keyword → entry.family = .auto bound) := by
    decide +kernel
  apply hall entry hmem bound
  cases bound <;> simp

theorem check?_of_number (hfamily : entry.family = .number bound) (params : List String) :
    entry.check? params =
      some (bound.arity, (numberTest entry.name bound params).map .test) := by
  unfold Entry.check?
  rw [hfamily]

/-- A rule on numbers is built of bounds that are numbers. -/
theorem exists_resolve_of_number (hentry : findEntry (normalize clause.name) = some entry)
    (hfamily : entry.family = .number bound) (hplaces : clause.params.length = bound.places)
    (hnumbers : ∀ raw ∈ clause.params, (parse raw).isSome = true) :
    ∃ v, clause.resolve literal = .ok v := by
  have htest : numberTest entry.name bound clause.params = .ok _ :=
    (numberTest_eq_ok_iff hplaces).2 ⟨hnumbers, rfl⟩
  obtain ⟨shown, hbuild⟩ := build_of_check? literal (check?_of_number hfamily clause.params)
    (admits_arity_iff.2 hplaces)
  rw [resolve_eq_of_findEntry hentry, hbuild, htest]
  exact ⟨_, rfl⟩

/-- A rule on numbers accepts the numbers that its bounds allow, and rejects all that is no
number. -/
theorem exists_passes_number (hentry : findEntry (normalize clause.name) = some entry)
    (hfamily : entry.family = .number bound) (hresolve : clause.resolve literal = .ok v)
    (value : Option String) (others : String → Option String) :
    ∃ accepted, v.passes? value others = some accepted ∧ (accepted = true ↔
      ∃ x, parse (value.getD "") = some x ∧ bound.AllowsNumber clause.params x) := by
  obtain ⟨hmade, hadmits⟩ :=
    of_resolve_ok hentry (check?_of_number hfamily clause.params) hresolve
  obtain ⟨test, htest, hcheck⟩ := map_eq_ok hmade
  have hplaces := admits_arity_iff.1 hadmits
  refine ⟨_, passes?_of_test hcheck.symm value others, ?_⟩
  rw [← passes_numberTest_iff hplaces htest]
  obtain ⟨-, rfl⟩ := (numberTest_eq_ok_iff hplaces).1 htest
  exact Iff.rfl

/-! ## Whole numbers in rules -/

/-- The validator compares the small whole numbers with the bounds, and does so exactly. -/
def ComparesWhole (v : Validator) (bound : Bound) (bounds : List Int) : Prop :=
  ∀ text x others, WritesWhole text x →
    (v.passes? (some text) others = some true ↔ bound.AllowsWhole bounds x)

theorem comparesWhole_of_passes (hplaces : clause.params.length = bound.places)
    (hbounds : List.Forall₂ WritesWhole clause.params bounds)
    (hpasses : ∀ text others, (parse text).isSome = true →
      (v.passes? (some text) others = some true ↔
        ∃ x, parse text = some x ∧ bound.AllowsNumber clause.params x)) :
    ComparesWhole v bound bounds := by
  intro text x others hwrites
  have hparse := parse_of_writesWhole hwrites
  rw [hpasses text others (by rw [hparse]; rfl), hparse]
  simp only [Option.some.injEq, exists_eq_left']
  exact allowsNumber_iff_allowsWhole hplaces hbounds

/-- In any spelling of their keywords, `min_num`, `max_num` and `between_num` are built with
whole numbers up to `2 ^ 53` as bounds, and compare such numbers with them exactly.  They
reject every value that is no finite number.  So do `size`, `min`, `max` and `between`
compare whole numbers, if they are built. -/
theorem accepts_whole_iff (hentry : findEntry (normalize clause.name) = some entry)
    (bound : Bound) :
    (entry.name = bound.numberKeyword →
      (∀ v, clause.resolve literal = .ok v → ∀ value others, parse (value.getD "") = none →
        v.passes? value others = some false) ∧
      ∀ bounds, clause.params.length = bound.places →
        List.Forall₂ WritesWhole clause.params bounds →
          ∃ v, clause.resolve literal = .ok v ∧ ComparesWhole v bound bounds) ∧
    (entry.name = bound.keyword → ∀ v bounds, clause.resolve literal = .ok v →
      List.Forall₂ WritesWhole clause.params bounds → ComparesWhole v bound bounds) := by
  obtain ⟨hnumber, hauto⟩ := family_of_name (of_findEntry hentry).1 bound
  refine ⟨fun hname => ⟨?_, ?_⟩, fun hname => ?_⟩
  · intro v hresolve value others hnone
    obtain ⟨accepted, hpasses, haccepted⟩ :=
      exists_passes_number hentry (hnumber hname) hresolve value others
    rw [hpasses, Option.some.injEq, ← Bool.not_eq_true, haccepted, hnone]
    rintro ⟨x, hx, -⟩
    cases hx
  · intro bounds hplaces hbounds
    have hnumbers : ∀ raw a, WritesWhole raw a → (parse raw).isSome = true ∧ WritesWhole raw a := by
      intro raw a hwrites
      rw [parse_of_writesWhole hwrites]
      exact ⟨rfl, hwrites⟩
    obtain ⟨v, hresolve⟩ := exists_resolve_of_number hentry (hnumber hname) hplaces
      ((List.forall₂_and_left _ _).1 (hbounds.imp hnumbers)).1
    refine ⟨v, hresolve, comparesWhole_of_passes hplaces hbounds fun text others _ => ?_⟩
    obtain ⟨accepted, hpasses, haccepted⟩ :=
      exists_passes_number hentry (hnumber hname) hresolve (some text) others
    rw [hpasses, Option.some.injEq, haccepted, Option.getD_some]
  · intro v bounds hresolve hbounds
    have hcheck : entry.check? clause.params =
        some (bound.arity, autoCheck entry bound clause.params) := by
      unfold Entry.check?
      rw [hauto hname]
    have hplaces := admits_arity_iff.1 (of_resolve_ok hentry hcheck hresolve).2
    refine comparesWhole_of_passes hplaces hbounds fun text others hparse => ?_
    have hcompares := compares_of_resolve hentry (hauto hname) hresolve text
    rw [if_pos (.inl hparse)] at hcompares
    exact hcompares.passes others

/-- Whole numbers in different spellings, at the bounds and at the limit. -/
theorem compares_whole_spellings : ∃ v w,
    Clause.resolve ⟨"betweenNum", ["-007", "+9007199254740992"], none⟩ none = .ok v ∧
      Clause.resolve ⟨"size", ["-0"], none⟩ none = .ok w ∧
      v.passes? (some " -7\t") (fun _ => none) = some true ∧
      v.passes? (some "7.5.") (fun _ => none) = some false ∧
      w.passes? (some "000") (fun _ => none) = some true := by
  let clause : Clause := ⟨"betweenNum", ["-007", "+9007199254740992"], none⟩
  let other : Clause := ⟨"size", ["-0"], none⟩
  have hwrites : ∀ (front back : List Char) {spelling : List Char} {x : Int},
      SpellsWhole spelling x → (∀ c ∈ front ++ back, Text.isBlank c = true) →
        x.natAbs ≤ 2 ^ 53 → WritesWhole (String.ofList (front ++ (spelling ++ back))) x :=
    fun _ _ _ _ hspells hblanks hsmall =>
      ⟨⟨_, _, _, String.toList_ofList, hblanks, hspells⟩, hsmall⟩
  have hseven : SpellsWhole ['-', '7'] (-7) :=
    .minus (by simp) (List.all_eq_true.1 (by decide))
  have hlow : SpellsWhole ['-', '0', '0', '7'] (-7) :=
    .minus (by simp) (List.all_eq_true.1 (by decide))
  have hhigh : SpellsWhole "+9007199254740992".toList 9007199254740992 :=
    @SpellsWhole.plus "9007199254740992".toList (by decide) (List.all_eq_true.1 (by decide))
  have hzero : SpellsWhole ['-', '0'] 0 := .minus (by simp) (List.all_eq_true.1 (by decide))
  have hzeros : SpellsWhole ['0', '0', '0'] 0 := .bare (by simp) (List.all_eq_true.1 (by decide))
  have hname : normalize clause.name = "between_num" := by decide +kernel
  have hentry : findEntry (normalize clause.name) =
      some ⟨"between_num", [], .number .between, "INVALID_BETWEEN_NUM"⟩ := by
    rw [hname]
    rfl
  have hother : normalize other.name = "size" := by decide +kernel
  have hauto : findEntry (normalize other.name) =
      some ⟨"size", [], .auto .exact, "INVALID_EXACT_LEN"⟩ := by
    rw [hother]
    rfl
  have hsome : ((other.resolve none).toOption).isSome = true := by decide +kernel
  obtain ⟨w, hw⟩ := exists_eq_ok_of_isSome hsome
  obtain ⟨hrejects, hcompares⟩ := (@accepts_whole_iff clause none _ hentry .between).1 rfl
  have hbounds : List.Forall₂ WritesWhole clause.params [-7, 9007199254740992] :=
    .cons (hwrites [] [] hlow (by simp) (by decide))
      (.cons (hwrites [] [] hhigh (by simp) (by decide)) .nil)
  obtain ⟨v, hv, hwhole⟩ := hcompares _ rfl hbounds
  refine ⟨v, w, hv, hw, ?_, ?_, ?_⟩
  · rw [hwhole " -7\t" (-7) _ (hwrites [' '] ['\t'] hseven
      (List.all_eq_true.1 (by decide)) (by decide))]
    exact ⟨by decide, by decide⟩
  · have hnone : parse "7.5." = none := by decide +kernel
    exact hrejects v hv (some "7.5.") _ hnone
  · have hzero : List.Forall₂ WritesWhole other.params [0] :=
      .cons (hwrites [] [] hzero (by simp) (by decide)) .nil
    have hsize := (accepts_whole_iff hauto .exact).2 rfl w [0] hw hzero
    rw [hsize "000" 0 _ (hwrites [] [] hzeros (by simp) (by decide))]
    rfl

end Rule

end FieldRules
