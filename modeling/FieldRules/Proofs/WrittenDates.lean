import FieldRules.Date.Format
import FieldRules.Proofs.Cutting
import FieldRules.Proofs.Numerals

/-!
# Dates as they are written

A `DateText` is a date laid out in its parts.  `Format.Writes` says which texts
stand for an instant: the parts of some layout are numerals of the instant's
components.  It knows neither the pattern of the format nor how a text is taken
apart.

* `decomposeChars_eq_some_iff`: a text whose parts are rows of digits is taken
  apart into an instant just if both separators are the same and the parts spell
  the instant.
* `Format.Writes.unique`: a text writes one instant at most.
-/

namespace FieldRules.Date

open Text Pattern

/-! ## Layouts -/

/-- A time of day as it is written, with the mark before it. -/
structure ClockText where
  mark : Char
  hour : List Char
  minute : List Char
  second : Option (List Char)

/-- A date as it is written, with the separators between its parts. -/
structure DateText where
  year : List Char
  month : List Char
  day : List Char
  first : Char
  second : Char
  clock : Option ClockText

/-- The time of day behind its mark. -/
def ClockText.body (c : ClockText) : List Char :=
  c.hour ++ ':' :: (c.minute ++ c.second.elim [] (':' :: ·))

/-- The parts of the date between their separators. -/
def DateText.line (order : Order) (d : DateText) : List Char :=
  match order with
  | .iso => d.year ++ d.first :: (d.month ++ d.second :: d.day)
  | .us => d.month ++ d.first :: (d.day ++ d.second :: d.year)
  | .euro => d.day ++ d.first :: (d.month ++ d.second :: d.year)

/-- The whole text. -/
def DateText.chars (order : Order) (d : DateText) : List Char :=
  d.line order ++ d.clock.elim [] fun c => c.mark :: c.body

/-! ## What is written -/

/-- A year in four digits, or in two that stand for one from 1950 to 2049. -/
def WritesYear (digits : YearDigits) (text : List Char) (year : Nat) : Prop :=
  digits ≠ .short ∧ IsNumeral [4] text year ∨
    digits ≠ .long ∧ ∃ n, IsNumeral [2] text n ∧ year = if n < 50 then 2000 + n else 1900 + n

/-- Hour and minute, and a second unless it is zero. -/
structure ClockText.Spells (c : ClockText) (hour minute second : Nat) : Prop where
  mark : c.mark ∈ [' ', 'T', 't']
  hour : IsNumeral [1, 2] c.hour hour
  minute : IsNumeral [2] c.minute minute
  second : c.second.elim (second = 0) (IsNumeral [2] · second)

/-- The parts of a date in the format; it is midnight if no time is written. -/
structure DateText.Spells (d : DateText) (f : Format) (t : DateTime) : Prop where
  separator : d.first ∈ ['-', '/', '.']
  same : d.second = d.first
  year : WritesYear f.year d.year t.year
  month : IsNumeral [1, 2] d.month t.month
  day : IsNumeral [1, 2] d.day t.day
  clock : d.clock.elim (t.hour = 0 ∧ t.minute = 0 ∧ t.second = 0)
    (·.Spells t.hour t.minute t.second)

/-- The text, from its first character to its last, writes the instant in the format. -/
def Format.Writes (f : Format) (text : List Char) (t : DateTime) : Prop :=
  ∃ d : DateText, d.chars f.order = text ∧ d.Spells f t

/-! ## Layouts of digits -/

/-- The parts of the time are rows of digits. -/
structure ClockText.Rough (c : ClockText) : Prop where
  mark : c.mark ∈ Format.timeMarks
  hour : IsRow [1, 2] c.hour
  minute : IsRow [2] c.minute
  second : ∀ row ∈ c.second, IsRow [2] row

/-- The parts of the date are rows of digits. -/
structure DateText.Rough (d : DateText) : Prop where
  first : d.first ∈ Format.separators
  second : d.second ∈ Format.separators
  year : IsRow [2, 4] d.year
  month : IsRow [1, 2] d.month
  day : IsRow [1, 2] d.day
  clock : ∀ c ∈ d.clock, c.Rough

variable {f : Format} {order : Order} {d : DateText} {c : ClockText} {t : DateTime}
  {text : List Char} {n : Nat}

theorem WritesYear.isRow {digits : YearDigits} (hyear : WritesYear digits text n) :
    IsRow [2, 4] text := by
  rcases hyear with ⟨-, hnumeral⟩ | ⟨-, m, hnumeral, -⟩
  · exact hnumeral.isRow.mono (by decide)
  · exact hnumeral.isRow.mono (by decide)

theorem WritesYear.isDigit {digits : YearDigits} (hyear : WritesYear digits text n) :
    ∀ c ∈ text, c.isDigit = true := by
  rcases hyear with ⟨-, hnumeral⟩ | ⟨-, m, hnumeral, -⟩
  · exact hnumeral.isDigit
  · exact hnumeral.isDigit

theorem ClockText.Spells.rough {hour minute second : Nat} (hspells : c.Spells hour minute second) :
    c.Rough where
  mark := hspells.mark
  hour := hspells.hour.isRow
  minute := hspells.minute.isRow
  second row hrow := by
    have hsecond := hspells.second
    rw [Option.mem_def.1 hrow] at hsecond
    exact hsecond.isRow

theorem DateText.Spells.rough (hspells : d.Spells f t) : d.Rough where
  first := hspells.separator
  second := by
    rw [hspells.same]
    exact hspells.separator
  year := hspells.year.isRow
  month := hspells.month.isRow
  day := hspells.day.isRow
  clock c hc := by
    have hclock := hspells.clock
    rw [Option.mem_def.1 hc] at hclock
    exact hclock.rough

/-! ## Numbers -/

theorem component?_eq_some_iff {lengths : List Nat} (hrow : IsRow lengths text)
    (hsub : lengths ⊆ [1, 2]) : Format.component? text = some n ↔ IsNumeral lengths text n := by
  refine unsigned?_eq_some_iff hrow (fun hzero => by simpa using hsub hzero) ?_
  intro length hlength
  have hall : ∀ length ∈ [1, 2], 10 ^ length ≤ wordLimit := by decide
  exact hall length (hsub hlength)

/-- A year is read as it is written. -/
theorem parseYear_eq_some_iff (hiso : f.order = .iso → f.year = .long) :
    f.parseYear text = some n ↔ WritesYear f.year text n := by
  unfold Format.parseYear
  by_cases hall : text.all Char.isDigit = true
  · have hnumeral : ∀ length m, IsNumeral [length] text m ↔
        text.length = length ∧ digitsValue text = m := by
      intro length m
      refine ⟨fun h => ⟨by simpa using h.length_mem, h.value⟩, ?_⟩
      rintro ⟨hlength, hvalue⟩
      exact ⟨by simp [hlength], List.all_eq_true.1 hall, hvalue⟩
    simp only [WritesYear, hnumeral]
    rw [hall, Bool.not_true, if_neg Bool.false_ne_true]
    split
    case h_1 hlength hyear | h_2 hlength hyear => simp [hlength, hyear]
    case h_3 hlength hyear | h_4 hlength hyear =>
      have horder : f.order ≠ .iso := fun heq => by simp [hiso heq] at hyear
      simp [hlength, hyear, horder, eq_comm]
    case h_5 hlong hany hshort hany' => cases hyear : f.year <;> simp_all
  · rw [Bool.not_eq_true] at hall
    rw [hall, Bool.not_false, if_pos rfl]
    refine ⟨nofun, fun hyear => ?_⟩
    rw [List.all_eq_true.2 hyear.isDigit] at hall
    cases hall

/-! ## Parts of a text -/

/-- A text at which nothing is cut or trimmed. -/
def Uncut (text : List Char) : Prop :=
  ∀ e ∈ text, e ∉ Format.separators ∧ e ∉ Format.timeMarks ∧ e ≠ ':' ∧ isBlank e = false

theorem uncut_of_isRow {lengths : List Nat} (hrow : IsRow lengths text) : Uncut text := by
  intro e he
  have hdigit := hrow.digit e he
  have hcode := toNat_of_digit hdigit
  refine ⟨?_, ?_, ?_, notBlank_of_digit hdigit⟩
  · simp only [Format.separators, List.mem_cons, List.not_mem_nil, or_false, not_or]
    refine ⟨?_, ?_, ?_⟩ <;> rintro rfl <;> simp at hcode
  · simp only [Format.timeMarks, List.mem_cons, List.not_mem_nil, or_false, not_or]
    refine ⟨?_, ?_, ?_⟩ <;> rintro rfl <;> simp at hcode
  · rintro rfl
    simp at hcode

/-- The time is cut between its parts only. -/
structure ClockText.Parted (c : ClockText) : Prop where
  mark : c.mark ∈ Format.timeMarks
  hour : Uncut c.hour
  minute : Uncut c.minute
  second : ∀ row ∈ c.second, Uncut row

/-- The date is cut between its parts only. -/
structure DateText.Parted (d : DateText) : Prop where
  first : d.first ∈ Format.separators
  second : d.second ∈ Format.separators
  year : Uncut d.year
  month : Uncut d.month
  day : Uncut d.day
  clock : ∀ c ∈ d.clock, c.Parted

theorem ClockText.Rough.parted (hrough : c.Rough) : c.Parted where
  mark := hrough.mark
  hour := uncut_of_isRow hrough.hour
  minute := uncut_of_isRow hrough.minute
  second row hrow := uncut_of_isRow (hrough.second row hrow)

theorem DateText.Rough.parted (hrough : d.Rough) : d.Parted where
  first := hrough.first
  second := hrough.second
  year := uncut_of_isRow hrough.year
  month := uncut_of_isRow hrough.month
  day := uncut_of_isRow hrough.day
  clock c hc := (hrough.clock c hc).parted

/-! ## Taking a text apart -/

/-- The pieces of a date are what stands between its separators, if they are the same. -/
theorem datePieces_eq {a b c : List Char} {first second : Char} (ha : Uncut a) (hb : Uncut b)
    (hc : Uncut c) (hfirst : first ∈ Format.separators) (hsecond : second ∈ Format.separators) :
    Format.datePieces (a ++ first :: (b ++ second :: c)) =
      if second = first then some (a, b, c) else none := by
  have hnot : ∀ {part sep}, Uncut part → sep ∈ Format.separators → sep ∉ part := by
    intro part sep hpart hsep hmem
    exact (hpart sep hmem).1 hsep
  have hfind : (a ++ first :: (b ++ second :: c)).find? (· ∈ Format.separators) =
      some first := by
    rw [List.find?_append, List.find?_cons_of_pos (by simpa using hfirst),
      List.find?_eq_none.2, Option.none_or]
    intro e he
    simpa using (ha e he).1
  unfold Format.datePieces
  rw [hfind]
  by_cases hsame : second = first
  · subst hsame
    have hsplit : split second ([second].intercalate [a, b, c]) = [a, b, c] :=
      split_intercalate (by simp) (by simp [hnot ha hsecond, hnot hb hsecond, hnot hc hsecond])
    simp only [List.intercalate_cons_cons, List.intercalate_singleton, List.append_assoc,
      List.singleton_append] at hsplit
    rw [if_pos rfl, Option.bind_eq_bind, Option.bind_some, hsplit]
    rfl
  · have hother : first ≠ second := fun heq => hsame heq.symm
    have hsplit : split first ([first].intercalate [a, b ++ second :: c]) =
        [a, b ++ second :: c] :=
      split_intercalate (by simp)
        (by simp [hnot ha hfirst, hnot hb hfirst, hnot hc hfirst, hother])
    simp only [List.intercalate_cons_cons, List.intercalate_singleton, List.append_assoc,
      List.singleton_append] at hsplit
    rw [if_neg hsame, Option.bind_eq_bind, Option.bind_some, hsplit]

theorem ClockText.body_eq_intercalate (c : ClockText) :
    c.body = [':'].intercalate (c.hour :: c.minute :: c.second.toList) := by
  unfold body
  cases c.second <;> simp

theorem ClockText.Parted.uncut (hparted : c.Parted) {piece : List Char}
    (hpiece : piece ∈ c.hour :: c.minute :: c.second.toList) : Uncut piece := by
  rcases List.mem_cons.1 hpiece with rfl | hpiece
  · exact hparted.hour
  rcases List.mem_cons.1 hpiece with rfl | hpiece
  · exact hparted.minute
  · exact hparted.second piece (Option.mem_toList.1 hpiece)

theorem split_body (hparted : c.Parted) :
    split ':' c.body = c.hour :: c.minute :: c.second.toList := by
  rw [c.body_eq_intercalate]
  refine split_intercalate (List.cons_ne_nil _ _) fun piece hpiece hcolon => ?_
  exact (hparted.uncut hpiece ':' hcolon).2.2.1 rfl

/-- A time of day is read by its parts. -/
theorem parseTime_body_eq_some_iff (hparted : c.Parted) {hour minute second : Nat} :
    Format.parseTime c.body = some (hour, minute, second) ↔
      Format.component? c.hour = some hour ∧ Format.component? c.minute = some minute ∧
        c.second.elim (second = 0) (Format.component? · = some second) := by
  rw [Format.parseTime, split_body hparted]
  cases c.second with
  | none => simp [Option.bind_eq_some_iff, @eq_comm Nat 0]
  | some row => simp [Option.bind_eq_some_iff]

theorem ClockText.Parted.notBlank (hparted : c.Parted) : ∀ e ∈ c.body, isBlank e = false := by
  intro e
  contrapose!
  intro hblank
  rw [c.body_eq_intercalate]
  refine not_mem_intercalate ?_ fun piece hpiece hmem => ?_
  · rw [List.mem_singleton]
    rintro rfl
    exact hblank (by decide +kernel)
  · exact hblank (hparted.uncut hpiece e hmem).2.2.2

theorem mem_line (hparted : d.Parted) {e : Char} (he : e ∈ d.line order) :
    e ∉ Format.timeMarks ∧ isBlank e = false := by
  have hseparator : ∀ e ∈ Format.separators, e ∉ Format.timeMarks ∧ isBlank e = false := by
    simp only [Format.separators, List.forall_mem_cons, List.not_mem_nil, false_implies,
      implies_true, and_true]
    decide +kernel
  have hfirst := hseparator d.first hparted.first
  have hsecond := hseparator d.second hparted.second
  have hpart : ∀ part ∈ [d.year, d.month, d.day], e ∈ part →
      e ∉ Format.timeMarks ∧ isBlank e = false := by
    intro part hpart hmem
    simp only [List.mem_cons, List.not_mem_nil, or_false] at hpart
    have huncut : Uncut part := by
      rcases hpart with rfl | rfl | rfl
      · exact hparted.year
      · exact hparted.month
      · exact hparted.day
    exact (huncut e hmem).2.imp_right And.right
  cases order <;> simp only [DateText.line, List.mem_append, List.mem_cons] at he <;> grind

theorem line_ne_nil (order : Order) (d : DateText) : d.line order ≠ [] := by
  cases order <;> simp [DateText.line]

/-- There is nothing to trim around a date, though a blank may stand before the time. -/
theorem trim_chars (hparted : d.Parted) : trim (d.chars order) = d.chars order := by
  rw [trim_eq_self_iff]
  constructor
  · intro e he
    rw [DateText.chars, List.head?_append_of_ne_nil _ (line_ne_nil order d)] at he
    exact (mem_line hparted (List.mem_of_mem_head? he)).2
  · unfold DateText.chars
    cases hclock : d.clock with
    | none =>
      intro e he
      rw [Option.elim_none, List.append_nil] at he
      exact (mem_line hparted (List.mem_of_mem_getLast? he)).2
    | some c =>
      have hbody : c.body ≠ [] := by simp [ClockText.body]
      intro e he
      rw [Option.elim_some, List.getLast?_append_of_ne_nil _ (List.cons_ne_nil _ _),
        List.getLast?_cons_of_ne_nil hbody] at he
      exact (hparted.clock c hclock).notBlank e (List.mem_of_mem_getLast? he)

/-- The parts of the date in the order in which they stand. -/
def DateText.pieces (order : Order) (d : DateText) : List Char × List Char × List Char :=
  match order with
  | .iso => (d.year, d.month, d.day)
  | .us => (d.month, d.day, d.year)
  | .euro => (d.day, d.month, d.year)

theorem datePieces_line (hparted : d.Parted) :
    Format.datePieces (d.line order) =
      if d.second = d.first then some (d.pieces order) else none := by
  obtain ⟨hfirst, hsecond, hyear, hmonth, hday, -⟩ := hparted
  cases order with
  | iso => exact datePieces_eq hyear hmonth hday hfirst hsecond
  | us => exact datePieces_eq hmonth hday hyear hfirst hsecond
  | euro => exact datePieces_eq hday hmonth hyear hfirst hsecond

/-- The date stands in the text, maybe with blanks around it and around its time. -/
def DateText.Stands (d : DateText) (order : Order) (text : List Char) : Prop :=
  match d.clock with
  | none => trim text = d.line order
  | some c => ∃ body, trim text = d.line order ++ c.mark :: body ∧ trim body = c.body

theorem stands_chars (hparted : d.Parted) : d.Stands order (d.chars order) := by
  unfold DateText.Stands
  rw [trim_chars hparted, DateText.chars]
  cases hclock : d.clock with
  | none => exact List.append_nil _
  | some c => exact ⟨c.body, rfl, trim_eq_self_of_notBlank (hparted.clock c hclock).notBlank⟩

/-- Taking a text apart in which a date stands comes to the parts of the date. -/
theorem decomposeChars_eq (hparted : d.Parted) (hstands : d.Stands f.order text) :
    f.decomposeChars text =
      if d.second = d.first then do
        let time ← d.clock.elim (some (0, 0, 0)) fun c => Format.parseTime c.body
        return {
          year := ← f.parseYear d.year
          month := ← Format.component? d.month
          day := ← Format.component? d.day
          hour := time.1
          minute := time.2.1
          second := time.2.2 }
      else
        none := by
  have hbefore : ∀ e ∈ d.line f.order, decide (e ∈ Format.timeMarks) = false :=
    fun e he => decide_eq_false (mem_line hparted he).1
  unfold DateText.Stands at hstands
  unfold Format.decomposeChars
  dsimp only
  cases hclock : d.clock with
  | none =>
    rw [hclock] at hstands
    rw [hstands, splitOnce_eq_none hbefore, Option.elim_none]
    dsimp only
    rw [datePieces_line hparted]
    split
    · cases f.order <;> rfl
    · rfl
  | some c =>
    rw [hclock] at hstands
    obtain ⟨body, htext, hbody⟩ := hstands
    have hmark := (hparted.clock c hclock).mark
    rw [htext, splitOnce_append hbefore (decide_eq_true hmark), Option.elim_some]
    dsimp only
    rw [hbody, datePieces_line hparted]
    split
    · cases f.order <;> rfl
    · rfl

/-- A text in which a date stands is read by the parts of the date. -/
theorem decomposeChars_eq_some_iff_parts (hparted : d.Parted) (hstands : d.Stands f.order text) :
    f.decomposeChars text = some t ↔
      d.second = d.first ∧ f.parseYear d.year = some t.year ∧
        Format.component? d.month = some t.month ∧ Format.component? d.day = some t.day ∧
          d.clock.elim (t.hour = 0 ∧ t.minute = 0 ∧ t.second = 0) fun c =>
            Format.parseTime c.body = some (t.hour, t.minute, t.second) := by
  rw [decomposeChars_eq hparted hstands, Option.ite_none_right_eq_some]
  simp only [Option.bind_eq_bind, Option.bind_eq_some_iff, Option.pure_def, Option.some.injEq]
  refine and_congr_right fun _ => ?_
  constructor
  · rintro ⟨⟨h, m, s⟩, htime, y, hy, mo, hmo, da, hda, rfl⟩
    refine ⟨hy, hmo, hda, ?_⟩
    cases hclock : d.clock with
    | none =>
      rw [hclock] at htime
      cases htime
      exact ⟨rfl, rfl, rfl⟩
    | some c =>
      rw [hclock] at htime
      exact htime
  · rintro ⟨hy, hmo, hda, htime⟩
    refine ⟨(t.hour, t.minute, t.second), ?_, _, hy, _, hmo, _, hda, rfl⟩
    cases hclock : d.clock with
    | none =>
      rw [hclock] at htime
      rw [Option.elim_none, htime.1, htime.2.1, htime.2.2]
    | some c =>
      rw [hclock] at htime
      exact htime

/-- A text whose parts are rows of digits is taken apart just if it writes an instant. -/
theorem decomposeChars_eq_some_iff (hiso : f.order = .iso → f.year = .long) (hrough : d.Rough) :
    f.decomposeChars (d.chars f.order) = some t ↔ d.Spells f t := by
  have hclock : (d.clock.elim (t.hour = 0 ∧ t.minute = 0 ∧ t.second = 0) fun c =>
      Format.parseTime c.body = some (t.hour, t.minute, t.second)) ↔
      d.clock.elim (t.hour = 0 ∧ t.minute = 0 ∧ t.second = 0)
        (·.Spells t.hour t.minute t.second) := by
    cases hclock : d.clock with
    | none => rfl
    | some c =>
      have hc := hrough.clock c hclock
      rw [Option.elim_some, Option.elim_some, parseTime_body_eq_some_iff hc.parted,
        component?_eq_some_iff hc.hour (by simp), component?_eq_some_iff hc.minute (by simp)]
      have hsecond : (c.second.elim (t.second = 0) (Format.component? · = some t.second)) ↔
          c.second.elim (t.second = 0) (IsNumeral [2] · t.second) := by
        cases hsecond : c.second with
        | none => rfl
        | some row => exact component?_eq_some_iff (hc.second row hsecond) (by simp)
      rw [hsecond]
      exact ⟨fun h => ⟨hc.mark, h.1, h.2.1, h.2.2⟩, fun h => ⟨h.hour, h.minute, h.second⟩⟩
  rw [decomposeChars_eq_some_iff_parts hrough.parted (stands_chars hrough.parted),
    parseYear_eq_some_iff hiso, component?_eq_some_iff hrough.month (by simp),
    component?_eq_some_iff hrough.day (by simp), hclock]
  constructor
  · rintro ⟨hsame, hyear, hmonth, hday, htime⟩
    exact ⟨hrough.first, hsame, hyear, hmonth, hday, htime⟩
  · intro hspells
    exact ⟨hspells.same, hspells.year, hspells.month, hspells.day, hspells.clock⟩

/-- A text writes one instant at most. -/
theorem Format.Writes.unique {t' : DateTime} (hiso : f.order = .iso → f.year = .long)
    (hwrites : f.Writes text t) (hwrites' : f.Writes text t') : t = t' := by
  obtain ⟨d, htext, hspells⟩ := hwrites
  obtain ⟨d', htext', hspells'⟩ := hwrites'
  have hread := (decomposeChars_eq_some_iff hiso hspells.rough).2 hspells
  have hread' := (decomposeChars_eq_some_iff hiso hspells'.rough).2 hspells'
  rw [htext] at hread
  rw [htext', hread] at hread'
  exact Option.some.inj hread'

end FieldRules.Date
