import FieldRules.Proofs.WrittenDates

/-!
# Dates as they are read

Taking a text apart is laxer than writing it: months, days and times may have a plus sign
before them and any number of zeros, and there may be blanks around the date and around its
time.  Only years are read as they are written.

* `Format.Reads`: the instants that a text is read as.
* `decomposeChars_iff_reads`: what taking a text apart finds.
* `Format.Writes.reads`: what is written is read.
-/

namespace FieldRules.Date

open Text

variable {f : Format} {order : Order} {d : DateText} {c : ClockText} {t : DateTime}
  {text date : List Char} {n : Nat}

/-! ## Layouts that are read -/

/-- Hour and minute, and a second unless it is zero. -/
structure ClockText.LooselySpells (c : ClockText) (hour minute second : Nat) : Prop where
  mark : c.mark ∈ Format.timeMarks
  hour : LooseNumeral wordLimit c.hour hour
  minute : LooseNumeral wordLimit c.minute minute
  second : c.second.elim (second = 0) (LooseNumeral wordLimit · second)

/-- The parts of a date in the format; it is midnight if no time is written. -/
structure DateText.LooselySpells (d : DateText) (f : Format) (t : DateTime) : Prop where
  separator : d.first ∈ Format.separators
  same : d.second = d.first
  year : WritesYear f.year d.year t.year
  month : LooseNumeral wordLimit d.month t.month
  day : LooseNumeral wordLimit d.day t.day
  clock : d.clock.elim (t.hour = 0 ∧ t.minute = 0 ∧ t.second = 0)
    (·.LooselySpells t.hour t.minute t.second)

/-- The text, with or without blanks around it and around the time, is read as the instant. -/
def Format.Reads (f : Format) (text : List Char) (t : DateTime) : Prop :=
  ∃ d : DateText, d.Stands f.order text ∧ d.LooselySpells f t

/-! ## Numbers -/

theorem component?_iff_looseNumeral :
    Format.component? text = some n ↔ LooseNumeral wordLimit text n :=
  unsigned?_iff_looseNumeral

theorem uncut_of_digits (hdigits : ∀ e ∈ text, e.isDigit = true) : Uncut text := by
  have hrow : IsRow [text.length] text :=
    ⟨List.mem_singleton_self _, fun e he => digit_contains_of_isDigit (hdigits e he)⟩
  exact uncut_of_isRow hrow

theorem uncut_of_looseNumeral {limit : Nat} (hnumeral : LooseNumeral limit text n) :
    Uncut text := by
  obtain ⟨digits, htext, -, hdigits, -⟩ := hnumeral
  have huncut := uncut_of_digits hdigits
  rcases htext with rfl | rfl
  · exact huncut
  · have hplus : '+' ∉ Format.separators ∧ '+' ∉ Format.timeMarks ∧ '+' ≠ ':' ∧
        isBlank '+' = false := by
      decide +kernel
    exact List.forall_mem_cons.2 ⟨hplus, huncut⟩

theorem ClockText.LooselySpells.parted {hour minute second : Nat}
    (hspells : c.LooselySpells hour minute second) : c.Parted where
  mark := hspells.mark
  hour := uncut_of_looseNumeral hspells.hour
  minute := uncut_of_looseNumeral hspells.minute
  second row hrow := by
    have hsecond := hspells.second
    rw [Option.mem_def.1 hrow] at hsecond
    exact uncut_of_looseNumeral hsecond

theorem DateText.LooselySpells.parted (hspells : d.LooselySpells f t) : d.Parted where
  first := hspells.separator
  second := by
    rw [hspells.same]
    exact hspells.separator
  year := uncut_of_digits hspells.year.isDigit
  month := uncut_of_looseNumeral hspells.month
  day := uncut_of_looseNumeral hspells.day
  clock c hc := by
    have hclock := hspells.clock
    rw [Option.mem_def.1 hc] at hclock
    exact hclock.parted

/-! ## What is found -/

theorem exists_of_datePieces {x y z : List Char} (h : Format.datePieces date = some (x, y, z)) :
    ∃ sep ∈ Format.separators, date = x ++ sep :: (y ++ sep :: z) := by
  unfold Format.datePieces at h
  obtain ⟨sep, hfind, h⟩ := Option.bind_eq_some_iff.1 h
  have hsep : sep ∈ Format.separators := by simpa using List.find?_some hfind
  refine ⟨sep, hsep, ?_⟩
  split at h
  · next hsplit =>
    cases h
    rw [← intercalate_split sep date, hsplit]
    simp
  · cases h

theorem exists_of_parseTime {hour minute second : Nat}
    (h : Format.parseTime text = some (hour, minute, second)) (mark : Char)
    (hmark : mark ∈ Format.timeMarks) :
    ∃ c : ClockText, c.mark = mark ∧ c.body = text ∧ c.LooselySpells hour minute second := by
  have hjoin := intercalate_split ':' text
  unfold Format.parseTime at h
  split at h
  · next x y hsplit =>
    simp only [Option.bind_eq_bind, Option.bind_eq_some_iff, Option.pure_def, Option.some.injEq,
      Prod.mk.injEq, component?_iff_looseNumeral] at h
    obtain ⟨_, hx, _, hy, rfl, rfl, rfl⟩ := h
    refine ⟨⟨mark, x, y, none⟩, rfl, ?_, hmark, hx, hy, rfl⟩
    rw [← hjoin, hsplit]
    simp [ClockText.body]
  · next x y z hsplit =>
    simp only [Option.bind_eq_bind, Option.bind_eq_some_iff, Option.pure_def, Option.some.injEq,
      Prod.mk.injEq, component?_iff_looseNumeral] at h
    obtain ⟨_, hx, _, hy, _, hz, rfl, rfl, rfl⟩ := h
    refine ⟨⟨mark, x, y, some z⟩, rfl, ?_, hmark, hx, hy, hz⟩
    rw [← hjoin, hsplit]
    simp [ClockText.body]
  · cases h

/-- The date whose parts are the pieces of a line, in the order of a format. -/
def DateText.ofPieces (order : Order) (x y z : List Char) (sep : Char)
    (clock : Option ClockText) : DateText :=
  match order with
  | .iso => ⟨x, y, z, sep, sep, clock⟩
  | .us => ⟨z, x, y, sep, sep, clock⟩
  | .euro => ⟨z, y, x, sep, sep, clock⟩

section Pieces

variable (order : Order) (x y z : List Char) (sep : Char) (clock : Option ClockText)

theorem line_ofPieces :
    (DateText.ofPieces order x y z sep clock).line order = x ++ sep :: (y ++ sep :: z) := by
  cases order <;> rfl

theorem separators_ofPieces : (DateText.ofPieces order x y z sep clock).first = sep ∧
    (DateText.ofPieces order x y z sep clock).second = sep := by
  cases order <;> exact ⟨rfl, rfl⟩

theorem clock_ofPieces : (DateText.ofPieces order x y z sep clock).clock = clock := by
  cases order <;> rfl

end Pieces

/-- A text in which the pieces of a date stand is read as the instant of the pieces. -/
theorem reads_of_pieces (hiso : f.order = .iso → f.year = .long) {x y z : List Char} {sep : Char}
    (hsep : sep ∈ Format.separators) {clock : Option ClockText} {hour minute second : Nat}
    (hclock : clock.elim (hour = 0 ∧ minute = 0 ∧ second = 0)
      (·.LooselySpells hour minute second))
    (hstands : (DateText.ofPieces f.order x y z sep clock).Stands f.order text)
    (h : (do
      return {
        year := ← f.parseYear (DateText.ofPieces f.order x y z sep clock).year
        month := ← Format.component? (DateText.ofPieces f.order x y z sep clock).month
        day := ← Format.component? (DateText.ofPieces f.order x y z sep clock).day
        hour, minute, second }) = some t) : f.Reads text t := by
  simp only [Option.bind_eq_bind, Option.bind_eq_some_iff, Option.pure_def, Option.some.injEq,
    component?_iff_looseNumeral, parseYear_eq_some_iff hiso] at h
  obtain ⟨year, hyear, month, hmonth, day, hday, rfl⟩ := h
  obtain ⟨hfirst, hsecond⟩ := separators_ofPieces f.order x y z sep clock
  refine ⟨_, hstands, ?_, ?_, hyear, hmonth, hday, ?_⟩
  · rwa [hfirst]
  · rw [hfirst, hsecond]
  · rwa [clock_ofPieces]

theorem reads_of_decomposeChars (hiso : f.order = .iso → f.year = .long)
    (h : f.decomposeChars text = some t) : f.Reads text t := by
  unfold Format.decomposeChars at h
  dsimp only at h
  cases hsplit : splitOnce (· ∈ Format.timeMarks) (trim text) with
  | none =>
    rw [hsplit] at h
    obtain ⟨⟨x, y, z⟩, hpieces, h⟩ := Option.bind_eq_some_iff.1 h
    obtain ⟨sep, hsep, hdate⟩ := exists_of_datePieces hpieces
    have hclock : (none : Option ClockText).elim ((0 : Nat) = 0 ∧ (0 : Nat) = 0 ∧ (0 : Nat) = 0)
        (·.LooselySpells 0 0 0) := ⟨rfl, rfl, rfl⟩
    refine reads_of_pieces (x := x) (y := y) (z := z) hiso hsep hclock ?_ ?_
    · unfold DateText.Stands
      rw [clock_ofPieces, line_ofPieces]
      exact hdate
    · unfold DateText.ofPieces
      cases horder : f.order <;> rwa [horder] at h
  | some cut =>
    obtain ⟨date, time⟩ := cut
    rw [hsplit] at h
    obtain ⟨⟨x, y, z⟩, hpieces, h⟩ := Option.bind_eq_some_iff.1 h
    obtain ⟨⟨hour, minute, second⟩, htime, h⟩ := Option.bind_eq_some_iff.1 h
    obtain ⟨mark, hmark, htext⟩ := eq_append_of_splitOnce hsplit
    obtain ⟨sep, hsep, hdate⟩ := exists_of_datePieces hpieces
    obtain ⟨c, rfl, hbody, hspells⟩ := exists_of_parseTime htime mark (of_decide_eq_true hmark)
    have hclock : (some c).elim (hour = 0 ∧ minute = 0 ∧ second = 0)
        (·.LooselySpells hour minute second) := hspells
    refine reads_of_pieces (x := x) (y := y) (z := z) hiso hsep hclock ?_ ?_
    · unfold DateText.Stands
      rw [clock_ofPieces, line_ofPieces]
      exact ⟨time, by rw [htext, ← hdate], hbody.symm⟩
    · unfold DateText.ofPieces
      cases horder : f.order <;> rwa [horder] at h

/-- Taking a text apart finds the instants that it is read as. -/
theorem decomposeChars_iff_reads (hiso : f.order = .iso → f.year = .long) :
    f.decomposeChars text = some t ↔ f.Reads text t := by
  refine ⟨reads_of_decomposeChars hiso, ?_⟩
  rintro ⟨d, hstands, hspells⟩
  have hparted := hspells.parted
  rw [decomposeChars_eq_some_iff_parts hparted hstands, parseYear_eq_some_iff hiso]
  simp only [component?_iff_looseNumeral]
  refine ⟨hspells.same, hspells.year, hspells.month, hspells.day, ?_⟩
  have hclock := hspells.clock
  cases hcases : d.clock with
  | none =>
    rw [hcases] at hclock
    exact hclock
  | some c =>
    rw [hcases] at hclock
    rw [Option.elim_some, parseTime_body_eq_some_iff (hparted.clock c hcases)]
    simp only [component?_iff_looseNumeral]
    exact ⟨hclock.hour, hclock.minute, hclock.second⟩

/-- What is written is read. -/
theorem Format.Writes.reads (hiso : f.order = .iso → f.year = .long) (hwrites : f.Writes text t) :
    f.Reads text t := by
  obtain ⟨d, rfl, hspells⟩ := hwrites
  rw [← decomposeChars_iff_reads hiso]
  exact (decomposeChars_eq_some_iff hiso hspells.rough).2 hspells

/-- A text is read as one instant at most. -/
theorem Format.Reads.unique {t' : DateTime} (hiso : f.order = .iso → f.year = .long)
    (hreads : f.Reads text t) (hreads' : f.Reads text t') : t = t' := by
  rw [← decomposeChars_iff_reads hiso] at hreads hreads'
  rw [hreads] at hreads'
  exact Option.some.inj hreads'

end FieldRules.Date
