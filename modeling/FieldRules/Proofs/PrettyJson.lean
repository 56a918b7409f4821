import FieldRules.Json.Printer
import FieldRules.Json.Reader
import FieldRules.Proofs.Cutting

/-!
# Values that are printed can be read

A value that is written with one item a line is read back as it was, whatever layout
stands behind it.  Values with numbers in them are left out: a number has several
spellings.

* `readChars_escapeChar`, `readChars_flatMap`: escaped characters stand for themselves.
* `Json.Verbal`: the values without numbers.
* `exists_prettyChars_eq`: how the text of a value begins.
* `ReadsValues`, `ReadsItems`, `ReadsEntries`: with some fuel, the readers give back what
  was written, if the text is short enough.  More fuel is enough for longer texts.
* `parse?_pretty`: a value that is printed is read.
-/

namespace FieldRules.Json

open Text

variable {value : Json} {c : Char} {chars rest left : List Char} {level fuel : Nat}

/-! ## Strings -/

theorem hexValue?_hexDigit : ∀ n < 16, hexValue? (hexDigit n) = some n := by
  decide

theorem readChars_cons (hquote : c ≠ '"') (hslash : c ≠ '\\') (hcontrol : ¬ c.toNat < 0x20)
    (rest : List Char) :
    readChars none (c :: rest) = behindChar (some c) (readChars none rest) := by
  rw [readChars.eq_def]
  split
  · next heq => cases heq
  · next heq => exact absurd (List.cons.inj heq).1 hquote
  · next heq => exact absurd (List.cons.inj heq).1 hslash
  · next heq => exact absurd (List.cons.inj heq).1 hslash
  · next heq =>
    cases heq
    rw [if_neg hcontrol]
    rfl

/-- The code of a control character has two digits of its own. -/
theorem hexCode?_control (hcontrol : c.toNat < 0x20) :
    hexCode? '0' '0' (hexDigit (c.toNat / 16)) (hexDigit (c.toNat % 16)) = some c.toNat := by
  have hzero : hexValue? '0' = some 0 := by decide
  have hhigh := hexValue?_hexDigit (c.toNat / 16) (by omega)
  have hlow := hexValue?_hexDigit (c.toNat % 16) (by omega)
  have hcode : 4096 * 0 + 256 * 0 + 16 * (c.toNat / 16) + c.toNat % 16 = c.toNat := by omega
  unfold hexCode?
  rw [hzero, hhigh, hlow]
  exact congrArg some hcode

theorem readChars_control (hcontrol : c.toNat < 0x20) (rest : List Char) :
    readChars none ('\\' :: 'u' :: '0' :: '0' :: hexDigit (c.toNat / 16) ::
      hexDigit (c.toNat % 16) :: rest) = behindChar (some c) (readChars none rest) := by
  have hhalf : isHighHalf c.toNat = false := by
    unfold isHighHalf
    rw [Bool.and_eq_false_iff, decide_eq_false_iff_not, decide_eq_false_iff_not]
    omega
  have hvalid : (c.toNat.isValidChar && (none : Option Nat).isNone) = true := by
    have hlow : c.toNat.isValidChar := .inl (by omega)
    simpa using hlow
  rw [readChars, hexCode?_control hcontrol]
  dsimp only [Option.bind_eq_bind, Option.bind_some, Option.bind_none]
  rw [hhalf, if_neg Bool.false_ne_true, if_pos hvalid, Char.ofNat_toNat]

/-- An escaped character stands for itself. -/
theorem readChars_escapeChar (c : Char) (rest : List Char) :
    readChars none (escapeChar c ++ rest) = behindChar (some c) (readChars none rest) := by
  unfold escapeChar
  split
  case h_8 hquote hslash _ _ _ _ _ =>
    split
    · next hcontrol => exact readChars_control hcontrol rest
    · next hcontrol => exact readChars_cons hquote hslash hcontrol rest
  all_goals rfl

theorem readChars_flatMap (chars rest : List Char) :
    readChars none (chars.flatMap escapeChar ++ '"' :: rest) = some (some chars, rest) := by
  induction chars with
  | nil => rfl
  | cons c chars ih =>
    rw [List.flatMap_cons, List.append_assoc, readChars_escapeChar, ih]
    rfl

theorem quoted_append (s : String) (rest : List Char) :
    quoted s ++ rest = '"' :: (s.toList.flatMap escapeChar ++ '"' :: rest) := by
  rw [quoted, List.cons_append, List.cons_append, List.append_assoc]
  rfl

/-- An object all of whose keys are read is read. -/
theorem ofEntries_toList (entries : List (String × Json)) :
    ofEntries (entries.map fun entry => (some entry.1.toList, entry.2)) = .object entries := by
  have hkeys : (entries.map fun entry => (some entry.1.toList, entry.2)).mapM
      (fun entry => entry.1.map fun chars => (String.ofList chars, entry.2)) = some entries := by
    induction entries with
    | nil => rfl
    | cons entry entries ih =>
      rw [List.map_cons, List.mapM_cons, ih]
      simp
  rw [ofEntries, hkeys]

/-! ## Layout -/

theorem skipLayout_append (hlayout : ∀ c ∈ chars, isLayout c = true) (rest : List Char) :
    skipLayout (chars ++ rest) = skipLayout rest := by
  induction chars with
  | nil => rfl
  | cons c chars ih =>
    obtain ⟨hc, hchars⟩ := List.forall_mem_cons.1 hlayout
    rw [List.cons_append, skipLayout, List.dropWhile_cons_of_pos hc]
    exact ih hchars

theorem skipLayout_cons_of_not (hc : isLayout c = false) (rest : List Char) :
    skipLayout (c :: rest) = c :: rest :=
  List.dropWhile_cons_of_neg (by simp [hc])

theorem isLayout_of_mem_newline (hmem : c ∈ newline level) : isLayout c = true := by
  rcases List.mem_cons.1 hmem with rfl | hmem
  · rfl
  · rw [List.eq_of_mem_replicate hmem]
    rfl

theorem skipLayout_newline (level : Nat) (rest : List Char) :
    skipLayout (newline level ++ rest) = skipLayout rest :=
  skipLayout_append (fun _ => isLayout_of_mem_newline) rest

/-- Layout in front of a value does not matter to its reader. -/
theorem readValue_append (hlayout : ∀ c ∈ chars, isLayout c = true) (fuel : Nat)
    (rest : List Char) : readValue fuel (chars ++ rest) = readValue fuel rest := by
  cases fuel with
  | zero => rfl
  | succ fuel => rw [readValue, readValue, skipLayout_append hlayout]

/-! ## What readers do -/

theorem readValue_string {text inner : List Char} (hskip : skipLayout text = '"' :: inner)
    (hchars : readChars none inner = some (some chars, rest)) :
    readValue (fuel + 1) text = some (.string (String.ofList chars), rest) := by
  rw [readValue, hskip]
  show (readChars none inner).map _ = _
  rw [hchars]
  rfl

theorem readValue_array {text inner : List Char} {items : List Json}
    (hskip : skipLayout text = '[' :: inner) (hinner : ∀ left, skipLayout inner ≠ ']' :: left)
    (hitems : readItems fuel inner = some (items, rest)) :
    readValue (fuel + 1) text = some (.array items, rest) := by
  simp [readValue, hskip, hitems]

theorem readValue_object {text inner : List Char} {entries : List (String × Json)}
    (hskip : skipLayout text = '\x7b' :: inner) (hinner : ∀ left, skipLayout inner ≠ '\x7d' :: left)
    (hentries : readEntries fuel inner =
      some (entries.map fun entry => (some entry.1.toList, entry.2), rest)) :
    readValue (fuel + 1) text = some (.object entries, rest) := by
  simp [readValue, hskip, hentries, ofEntries_toList]

theorem readItems_last {text : List Char} (hvalue : readValue fuel text = some (value, rest))
    (hclosed : skipLayout rest = ']' :: left) :
    readItems (fuel + 1) text = some ([value], left) := by
  simp [readItems, hvalue, hclosed]

theorem readItems_cons {text behind : List Char} {items : List Json}
    (hvalue : readValue fuel text = some (value, rest)) (hcomma : skipLayout rest = ',' :: behind)
    (hitems : readItems fuel behind = some (items, left)) :
    readItems (fuel + 1) text = some (value :: items, left) := by
  simp [readItems, hvalue, hcomma, hitems]

theorem readEntries_last {text inner behind : List Char} {key : Option (List Char)}
    (hquote : skipLayout text = '"' :: inner) (hkey : readChars none inner = some (key, chars))
    (hcolon : skipLayout chars = ':' :: behind)
    (hvalue : readValue fuel behind = some (value, rest))
    (hclosed : skipLayout rest = '\x7d' :: left) :
    readEntries (fuel + 1) text = some ([(key, value)], left) := by
  simp [readEntries, hquote, hkey, hcolon, hvalue, hclosed]

theorem readEntries_cons {text inner behind next : List Char} {key : Option (List Char)}
    {entries : List (Option (List Char) × Json)}
    (hquote : skipLayout text = '"' :: inner) (hkey : readChars none inner = some (key, chars))
    (hcolon : skipLayout chars = ':' :: behind)
    (hvalue : readValue fuel behind = some (value, rest))
    (hcomma : skipLayout rest = ',' :: next)
    (hentries : readEntries fuel next = some (entries, left)) :
    readEntries (fuel + 1) text = some ((key, value) :: entries, left) := by
  simp [readEntries, hquote, hkey, hcolon, hvalue, hcomma, hentries]

/-! ## Values -/

/-- The value has no numbers in it, and nothing that could not be read. -/
inductive Verbal : Json → Prop where
  | null : Verbal null
  | bool (b : Bool) : Verbal (bool b)
  | string (s : String) : Verbal (string s)
  | array {items : List Json} (hitems : ∀ item ∈ items, Verbal item) : Verbal (array items)
  | object {entries : List (String × Json)} (hentries : ∀ entry ∈ entries, Verbal entry.2) :
      Verbal (object entries)

/-- The text of a value begins with no layout, and not with the end of a list. -/
theorem exists_prettyChars_eq (hverbal : value.Verbal) (level : Nat) :
    ∃ c chars, value.prettyChars level = c :: chars ∧
      isLayout c = false ∧ c ≠ ']' ∧ c ≠ '\x7d' := by
  cases hverbal with
  | null => exact ⟨'n', "ull".toList, rfl, by decide⟩
  | bool b =>
    cases b with
    | false => exact ⟨'f', "alse".toList, rfl, by decide⟩
    | true => exact ⟨'t', "rue".toList, rfl, by decide⟩
  | string s => exact ⟨'"', _, rfl, by decide⟩
  | @array items _ =>
    cases items with
    | nil => exact ⟨'[', _, rfl, by decide⟩
    | cons item items => exact ⟨'[', _, rfl, by decide⟩
  | @object entries _ =>
    cases entries with
    | nil => exact ⟨'\x7b', _, rfl, by decide⟩
    | cons entry entries => exact ⟨'\x7b', _, rfl, by decide⟩

theorem prettyItems_false_cons (level : Nat) (item : Json) (items : List Json) :
    prettyItems level false (item :: items) = ',' :: prettyItems level true (item :: items) := by
  simp only [prettyItems, Bool.false_eq_true, if_false, if_true, List.nil_append, List.cons_append]

theorem prettyEntries_false_cons (level : Nat) (entry : String × Json)
    (entries : List (String × Json)) :
    prettyEntries level false (entry :: entries) =
      ',' :: prettyEntries level true (entry :: entries) := by
  simp only [prettyEntries, Bool.false_eq_true, if_false, if_true, List.nil_append,
    List.cons_append]

/-! ## Reading what was written -/

/-- With this fuel, values are read whose text is at most half as long. -/
def ReadsValues (fuel : Nat) : Prop :=
  ∀ value level rest, Verbal value → 2 * (value.prettyChars level).length ≤ fuel →
    readValue fuel (value.prettyChars level ++ rest) = some (value, rest)

/-- With this fuel, the items of arrays are read whose text is at most half as long. -/
def ReadsItems (fuel : Nat) : Prop :=
  ∀ item items level rest left, (∀ other ∈ item :: items, Verbal other) →
    2 * (prettyItems level true (item :: items)).length ≤ fuel →
    skipLayout rest = ']' :: left →
    readItems fuel (prettyItems level true (item :: items) ++ rest) = some (item :: items, left)

/-- With this fuel, the entries of objects are read whose text is at most half as long. -/
def ReadsEntries (fuel : Nat) : Prop :=
  ∀ entry entries level rest left, (∀ other ∈ entry :: entries, Verbal other.2) →
    2 * (prettyEntries level true (entry :: entries)).length ≤ fuel →
    skipLayout rest = '\x7d' :: left →
    readEntries fuel (prettyEntries level true (entry :: entries) ++ rest) =
      some ((entry :: entries).map fun entry => (some entry.1.toList, entry.2), left)

theorem prettyItems_true_cons (level : Nat) (item : Json) (items : List Json) :
    prettyItems level true (item :: items) =
      newline level ++ (item.prettyChars level ++ prettyItems level false items) := by
  simp only [prettyItems, if_true, List.nil_append, List.append_assoc]

theorem prettyEntries_true_cons (level : Nat) (entry : String × Json)
    (entries : List (String × Json)) :
    prettyEntries level true (entry :: entries) =
      newline level ++ (quoted entry.1 ++
        (':' :: ' ' :: (entry.2.prettyChars level ++ prettyEntries level false entries))) := by
  simp only [prettyEntries, if_true, List.nil_append, List.append_assoc, List.cons_append]

theorem readsValues_succ (hitems : ReadsItems fuel) (hentries : ReadsEntries fuel) :
    ReadsValues (fuel + 1) := by
  intro value level rest hverbal hlength
  have hskip : skipLayout (value.prettyChars level ++ rest) = value.prettyChars level ++ rest := by
    obtain ⟨c, chars, htext, hlayout, -⟩ := exists_prettyChars_eq hverbal level
    rw [htext, List.cons_append, skipLayout_cons_of_not hlayout]
  cases hverbal with
  | null =>
    rw [readValue, hskip]
    rfl
  | bool b =>
    rw [readValue, hskip]
    cases b <;> rfl
  | string s =>
    rw [prettyChars, quoted_append] at hskip ⊢
    rw [readValue_string hskip (readChars_flatMap s.toList rest), String.ofList_toList]
  | @array items hverbal =>
    cases items with
    | nil =>
      rw [readValue, hskip]
      rfl
    | cons item items =>
      obtain ⟨c, chars, htext, hlayout, hend, -⟩ :=
        exists_prettyChars_eq (hverbal item List.mem_cons_self) (level + 1)
      simp only [prettyChars, List.cons_append, List.append_assoc] at hskip hlength ⊢
      apply readValue_array hskip
      · intro left
        rw [prettyItems_true_cons, List.append_assoc, skipLayout_newline, htext, List.append_assoc,
          List.cons_append, skipLayout_cons_of_not hlayout]
        simp [hend]
      · apply hitems item items (level + 1) _ rest hverbal
        · simp only [List.length_cons, List.length_append] at hlength
          omega
        · rw [skipLayout_newline, skipLayout_cons_of_not (by decide), List.nil_append]
  | @object entries hverbal =>
    cases entries with
    | nil =>
      rw [readValue, hskip]
      rfl
    | cons entry entries =>
      simp only [prettyChars, List.cons_append, List.append_assoc] at hskip hlength ⊢
      apply readValue_object hskip
      · intro left
        rw [prettyEntries_true_cons, List.append_assoc, skipLayout_newline, List.append_assoc,
          quoted_append, skipLayout_cons_of_not (by decide)]
        simp
      · apply hentries entry entries (level + 1) _ rest hverbal
        · simp only [List.length_cons, List.length_append] at hlength
          omega
        · rw [skipLayout_newline, skipLayout_cons_of_not (by decide), List.nil_append]

theorem length_newline_pos (level : Nat) : 0 < (newline level).length := by
  simp [newline]

theorem readsItems_succ (hvalues : ReadsValues fuel) (hitems : ReadsItems fuel) :
    ReadsItems (fuel + 1) := by
  intro item items level rest left hverbal hlength hclosed
  have hnewline := length_newline_pos level
  obtain ⟨hitem, hothers⟩ := List.forall_mem_cons.1 hverbal
  rw [prettyItems_true_cons, List.length_append, List.length_append] at hlength
  have hread : ∀ behind, readValue fuel (newline level ++ (item.prettyChars level ++ behind)) =
      some (item, behind) := by
    intro behind
    rw [readValue_append (fun _ => isLayout_of_mem_newline)]
    exact hvalues item level behind hitem (by omega)
  rw [prettyItems_true_cons, List.append_assoc, List.append_assoc]
  cases items with
  | nil => exact readItems_last (hread _) hclosed
  | cons next items =>
    rw [prettyItems_false_cons, List.length_cons] at hlength
    rw [prettyItems_false_cons, List.cons_append]
    apply readItems_cons (hread _) (skipLayout_cons_of_not (by decide) _)
    exact hitems next items level rest left hothers (by omega) hclosed

theorem readsEntries_succ (hvalues : ReadsValues fuel) (hentries : ReadsEntries fuel) :
    ReadsEntries (fuel + 1) := by
  intro entry entries level rest left hverbal hlength hclosed
  have hnewline := length_newline_pos level
  obtain ⟨hvalue, hothers⟩ := List.forall_mem_cons.1 hverbal
  rw [prettyEntries_true_cons] at hlength
  simp only [List.length_append, List.length_cons] at hlength
  have hquote : ∀ behind, skipLayout (newline level ++ (quoted entry.1 ++ behind)) =
      '"' :: (entry.1.toList.flatMap escapeChar ++ '"' :: behind) := by
    intro behind
    rw [skipLayout_newline, quoted_append, skipLayout_cons_of_not (by decide)]
  have hcolon : ∀ behind, skipLayout (':' :: ' ' :: behind) = ':' :: ([' '] ++ behind) :=
    fun behind => skipLayout_cons_of_not (by decide) _
  have hread : ∀ behind, readValue fuel ([' '] ++ (entry.2.prettyChars level ++ behind)) =
      some (entry.2, behind) := by
    intro behind
    rw [readValue_append (List.forall_mem_singleton.2 rfl)]
    exact hvalues entry.2 level behind hvalue (by omega)
  rw [prettyEntries_true_cons, List.append_assoc, List.append_assoc, List.cons_append,
    List.cons_append, List.append_assoc]
  cases entries with
  | nil =>
    exact readEntries_last (hquote _) (readChars_flatMap _ _) (hcolon _) (hread _) hclosed
  | cons next entries =>
    rw [prettyEntries_false_cons, List.length_cons] at hlength
    rw [prettyEntries_false_cons, List.cons_append]
    apply readEntries_cons (hquote _) (readChars_flatMap _ _) (hcolon _) (hread _)
      (skipLayout_cons_of_not (by decide) _)
    exact hentries next entries level rest left hothers (by omega) hclosed

theorem reads (fuel : Nat) : ReadsValues fuel ∧ ReadsItems fuel ∧ ReadsEntries fuel := by
  induction fuel with
  | zero =>
    refine ⟨?_, ?_, ?_⟩
    · intro value level rest hverbal hlength
      obtain ⟨c, chars, htext, -⟩ := exists_prettyChars_eq hverbal level
      simp [htext] at hlength
    · intro item items level rest left hverbal hlength
      simp [prettyItems_true_cons, newline] at hlength
    · intro entry entries level rest left hverbal hlength
      simp [prettyEntries_true_cons, newline] at hlength
  | succ fuel ih =>
    obtain ⟨hvalues, hitems, hentries⟩ := ih
    exact ⟨readsValues_succ hitems hentries, readsItems_succ hvalues hitems,
      readsEntries_succ hvalues hentries⟩

/-- A value that is printed is read, whatever layout stands behind it. -/
theorem parse?_pretty (hverbal : value.Verbal) {trail : String}
    (hlayout : ∀ c ∈ trail.toList, isLayout c = true) :
    parse? (value.pretty ++ trail) = some value := by
  have htext : (value.pretty ++ trail).toList = value.prettyChars 0 ++ trail.toList := by
    rw [pretty, String.toList_append, String.toList_ofList]
  have hread : readValue (2 * (value.prettyChars 0 ++ trail.toList).length + 2)
      (value.prettyChars 0 ++ trail.toList) = some (value, trail.toList) := by
    apply (reads _).1 value 0 trail.toList hverbal
    rw [List.length_append]
    omega
  have hskip : skipLayout trail.toList = [] := by
    have hempty := skipLayout_append hlayout []
    rwa [List.append_nil] at hempty
  unfold parse?
  dsimp only
  rw [htext, hread]
  dsimp only [Option.bind_eq_bind, Option.bind_some]
  rw [hskip]
  rfl

end FieldRules.Json
