import Mathlib.Data.Finset.Card
import Mathlib.Data.Finset.Range
import Mathlib.Data.List.GetD
import FieldRules.Pattern.Matcher

/-!
# The matcher finds what patterns accept

The matcher follows sets of places.  A pattern leads from one place of a text to
another if it accepts what stands between them, and the matcher leads a set of
places to all places that one of them leads to.

* `Re.Leads`: what a pattern accepts between two places.  `leads_seq_iff`,
  `leads_rep_iff` and their like follow the pattern.
* `testBit_afterCopies`, `withCopies_sound` and `withCopies_complete`: counted
  repetitions.  Places that are known already need not be followed again.
* `follows_over`: a pattern laid over a text leads sets of places as it should.
* `Re.occursIn_iff`: the matcher finds a pattern just if it occurs.
-/

namespace FieldRules.Pattern

variable {text : List Char} {r a b : Re} {lo n i j k : Nat} {hi : Option Nat}

/-! ## From place to place -/

/-- The pattern accepts the stretch of a text between two of its places. -/
def Re.Leads (text : List Char) (r : Re) (i j : Nat) : Prop :=
  ∃ pre w post, text = pre ++ w ++ post ∧ pre.length = i ∧ pre.length + w.length = j ∧
    Matches r pre.getLast? w post.head?

theorem Re.Leads.le_length (hleads : r.Leads text i j) : j ≤ text.length := by
  obtain ⟨pre, w, post, rfl, -, rfl, -⟩ := hleads
  simp only [List.length_append]
  omega

theorem lastOr_getLast? (pre w : List Char) : lastOr pre.getLast? w = (pre ++ w).getLast? := by
  rw [lastOr, List.getLast?_append]

theorem headOr_head? (w post : List Char) : headOr w post.head? = (w ++ post).head? := by
  rw [headOr, List.head?_append]

/-- Two patterns one after the other accept two words one after the other. -/
theorem exists_words_iff :
    (∃ k, a.Leads text i k ∧ b.Leads text k j) ↔
      ∃ pre u v post, text = pre ++ (u ++ v) ++ post ∧ pre.length = i ∧
        pre.length + (u ++ v).length = j ∧
        Matches a pre.getLast? u (headOr v post.head?) ∧
        Matches b (lastOr pre.getLast? u) v post.head? := by
  constructor
  · rintro ⟨k, ⟨pre, u, post, htext, hi, hk, hfirst⟩, pre', v, post', htext', hk', hj, hsecond⟩
    -- the second word starts where the first one ends
    have hsplit : pre ++ u ++ post = pre' ++ (v ++ post') := by
      rw [← htext, htext', List.append_assoc]
    have hlength : (pre ++ u).length = pre'.length := by
      rw [List.length_append]
      omega
    obtain ⟨rfl, rfl⟩ := List.append_inj hsplit hlength
    refine ⟨pre, u, v, post', ?_, hi, ?_, ?_, ?_⟩
    · rw [htext]
      simp only [List.append_assoc]
    · rw [List.length_append] at hj ⊢
      omega
    · rwa [headOr_head?]
    · rwa [lastOr_getLast?]
  · rintro ⟨pre, u, v, post, rfl, rfl, hj, hfirst, hsecond⟩
    rw [headOr_head?] at hfirst
    rw [lastOr_getLast?] at hsecond
    refine ⟨pre.length + u.length, ⟨pre, u, v ++ post, by simp, rfl, rfl, hfirst⟩,
      pre ++ u, v, post, by simp, by simp, ?_, hsecond⟩
    rw [List.length_append] at hj ⊢
    omega

theorem leads_empty_iff : Re.empty.Leads text i j ↔ i ≤ text.length ∧ i = j := by
  constructor
  · rintro ⟨pre, w, post, rfl, rfl, rfl, ⟨⟩⟩
    simp
  · rintro ⟨hle, rfl⟩
    refine ⟨text.take i, [], text.drop i, by simp, ?_, ?_, .empty⟩
    · exact List.length_take_of_le hle
    · simpa using hle

theorem leads_set_iff {s : CharSet} :
    (Re.set s).Leads text i j ↔ (text.map s.contains).getD i false = true ∧ i + 1 = j := by
  constructor
  · rintro ⟨pre, w, post, rfl, rfl, rfl, hmatches⟩
    cases hmatches with
    | set hmem => simp [hmem]
  · rintro ⟨hbit, rfl⟩
    have hlt : i < text.length := by
      by_contra hnot
      rw [List.getD_eq_default _ _ (by simpa using hnot)] at hbit
      cases hbit
    have hmem : s.contains text[i] = true := by
      rwa [List.getD_eq_getElem _ _ (by simpa using hlt), List.getElem_map] at hbit
    refine ⟨text.take i, [text[i]], text.drop (i + 1), ?_, ?_, ?_, .set hmem⟩
    · rw [List.append_assoc, List.singleton_append, ← List.drop_eq_getElem_cons hlt,
        List.take_append_drop]
    · exact List.length_take_of_le (Nat.le_of_lt hlt)
    · rw [List.length_take_of_le (Nat.le_of_lt hlt)]
      rfl

/-- Where a condition holds along a text. -/
theorem getD_holdsAlong (l : Look) (text : List Char) : ∀ (before : Option Char) (i : Nat),
    (l.holdsAlong before text).getD i false = true ↔
      i ≤ text.length ∧ l.holds (lastOr before (text.take i)) (text.drop i).head? = true := by
  induction text with
  | nil =>
    intro before i
    cases i <;> simp [Look.holdsAlong, lastOr]
  | cons c rest ih =>
    intro before i
    cases i with
    | zero => simp [Look.holdsAlong, lastOr]
    | succ i =>
      have hlast : lastOr (some c) (rest.take i) = lastOr before (c :: rest.take i) := by
        simp only [lastOr, List.getLast?_cons]
        cases (rest.take i).getLast? <;> rfl
      rw [Look.holdsAlong, List.getD_cons_succ, ih, hlast]
      simp

theorem leads_look_iff {l : Look} :
    (Re.look l).Leads text i j ↔ (l.holdsAlong none text).getD i false = true ∧ i = j := by
  rw [getD_holdsAlong]
  constructor
  · rintro ⟨pre, w, post, rfl, rfl, rfl, hmatches⟩
    cases hmatches with
    | look hholds =>
      refine ⟨⟨by simp, ?_⟩, rfl⟩
      simpa [lastOr] using hholds
  · rintro ⟨⟨hle, hholds⟩, rfl⟩
    refine ⟨text.take i, [], text.drop i, by simp, List.length_take_of_le hle, ?_, .look ?_⟩
    · simpa using hle
    · simpa [lastOr] using hholds

theorem leads_seq_iff :
    (Re.seq a b).Leads text i j ↔ ∃ k, a.Leads text i k ∧ b.Leads text k j := by
  rw [exists_words_iff]
  constructor
  · rintro ⟨pre, w, post, htext, hi, hj, hmatches⟩
    cases hmatches with
    | @seq _ _ _ u v _ hfirst hsecond => exact ⟨pre, u, v, post, htext, hi, hj, hfirst, hsecond⟩
  · rintro ⟨pre, u, v, post, htext, hi, hj, hfirst, hsecond⟩
    exact ⟨pre, u ++ v, post, htext, hi, hj, .seq hfirst hsecond⟩

theorem leads_alt_iff :
    (Re.alt a b).Leads text i j ↔ a.Leads text i j ∨ b.Leads text i j := by
  constructor
  · rintro ⟨pre, w, post, htext, hi, hj, hmatches⟩
    cases hmatches with
    | altLeft hleft => exact .inl ⟨pre, w, post, htext, hi, hj, hleft⟩
    | altRight hright => exact .inr ⟨pre, w, post, htext, hi, hj, hright⟩
  · rintro (⟨pre, w, post, htext, hi, hj, hleft⟩ | ⟨pre, w, post, htext, hi, hj, hright⟩)
    · exact ⟨pre, w, post, htext, hi, hj, .altLeft hleft⟩
    · exact ⟨pre, w, post, htext, hi, hj, .altRight hright⟩

/-! ## Copies -/

/-- So many steps of a relation between places. -/
def Copies (lead : Nat → Nat → Prop) : Nat → Nat → Nat → Prop
  | 0, i, j => i = j
  | n + 1, i, j => ∃ k, lead i k ∧ Copies lead n k j

variable {lead : Nat → Nat → Prop}

theorem copies_add_iff (m n : Nat) :
    Copies lead (m + n) i j ↔ ∃ k, Copies lead m i k ∧ Copies lead n k j := by
  induction m generalizing i with
  | zero => simp [Copies]
  | succ m ih =>
    rw [Nat.succ_add, Copies]
    constructor
    · rintro ⟨k, hfirst, hrest⟩
      obtain ⟨l, hm, hn⟩ := ih.1 hrest
      exact ⟨l, ⟨k, hfirst, hm⟩, hn⟩
    · rintro ⟨l, ⟨k, hfirst, hm⟩, hn⟩
      exact ⟨k, hfirst, ih.2 ⟨l, hm, hn⟩⟩

/-- The number of copies is between the bounds. -/
def Within (lo : Nat) (hi : Option Nat) (n : Nat) : Prop :=
  lo ≤ n ∧ ∀ most ∈ hi, n ≤ most

theorem within_succ_iff : Within lo hi (n + 1) ↔
    allowsMore hi = true ∧ Within (lo - 1) (oneLess hi) n := by
  rcases hi with _ | _ | most
  · simp [Within, allowsMore, oneLess]
  · simp [Within, allowsMore]
  · simp [Within, allowsMore, oneLess]

/-- A repetition accepts copies one after the other. -/
theorem Matches.exists_copies {e : Re} {before after : Option Char} {w : List Char}
    (hmatches : Matches e before w after) :
    ∀ {lo hi r}, e = .rep lo hi r → ∀ pre post : List Char, pre.getLast? = before →
      post.head? = after → ∃ n, Within lo hi n ∧
        Copies (r.Leads (pre ++ w ++ post)) n pre.length (pre.length + w.length) := by
  induction hmatches with
  | repDone =>
    rintro lo hi r ⟨⟩ pre post - -
    exact ⟨0, ⟨Nat.le_refl 0, fun most _ => Nat.zero_le most⟩, rfl⟩
  | @repMore r lo hi before u v after hmore hfirst hrest _ ih =>
    rintro lo hi r ⟨⟩ pre post rfl rfl
    obtain ⟨n, hwithin, hcopies⟩ := ih rfl (pre ++ u) post (lastOr_getLast? pre u).symm rfl
    rw [headOr_head?] at hfirst
    refine ⟨n + 1, within_succ_iff.2 ⟨hmore, hwithin⟩, pre.length + u.length,
      ⟨pre, u, v ++ post, by simp, rfl, rfl, hfirst⟩, ?_⟩
    simpa [Nat.add_assoc] using hcopies
  | empty | set | look | seq | altLeft | altRight =>
    intro lo hi r heq
    cases heq

theorem leads_rep_of_copies (n : Nat) : ∀ {lo hi i}, i ≤ text.length → Within lo hi n →
    Copies (r.Leads text) n i j → (Re.rep lo hi r).Leads text i j := by
  induction n with
  | zero =>
    rintro lo hi i hle ⟨hlo, -⟩ rfl
    obtain rfl := Nat.le_zero.1 hlo
    refine ⟨text.take i, [], text.drop i, by simp, List.length_take_of_le hle, ?_, .repDone⟩
    simpa using hle
  | succ n ih =>
    rintro lo hi i hle hwithin ⟨k, hfirst, hrest⟩
    obtain ⟨hmore, hwithin⟩ := within_succ_iff.1 hwithin
    have hlater := ih hfirst.le_length hwithin hrest
    obtain ⟨pre, u, v, post, htext, hi, hj, hu, hv⟩ := exists_words_iff.1 ⟨k, hfirst, hlater⟩
    exact ⟨pre, u ++ v, post, htext, hi, hj, .repMore hmore hu hv⟩

theorem leads_rep_iff :
    (Re.rep lo hi r).Leads text i j ↔
      i ≤ text.length ∧ ∃ n, Within lo hi n ∧ Copies (r.Leads text) n i j := by
  constructor
  · rintro ⟨pre, w, post, rfl, rfl, rfl, hmatches⟩
    refine ⟨?_, hmatches.exists_copies rfl pre post rfl rfl⟩
    simp only [List.length_append]
    omega
  · rintro ⟨hle, n, hwithin, hcopies⟩
    exact leads_rep_of_copies n hle hwithin hcopies

/-! ## Sets of places -/

/-- All places of the set are places of a text of this length. -/
def Places.Below (length : Nat) (places : Places) : Prop :=
  ∀ i, places.testBit i = true → i ≤ length

/-- A function leads sets of places to all places that one of them leads to. -/
structure Follows (length : Nat) (lead : Nat → Nat → Prop) (copy : Places → Places) : Prop where
  le_length : ∀ {i j}, lead i j → j ≤ length
  testBit_iff : ∀ {places : Places}, places.Below length → ∀ j,
    (copy places).testBit j = true ↔ ∃ i, places.testBit i = true ∧ lead i j

namespace Follows

variable {length : Nat} {copy : Places → Places} {places known reached fresh : Places}

theorem below (hfollows : Follows length lead copy) (hbelow : places.Below length) :
    (copy places).Below length := by
  intro j hj
  obtain ⟨i, -, hlead⟩ := (hfollows.testBit_iff hbelow j).1 hj
  exact hfollows.le_length hlead

/-- The first of several copies leads on to the others. -/
theorem exists_copies_succ_iff (hfollows : Follows length lead copy)
    (hbelow : places.Below length) :
    (∃ i, places.testBit i = true ∧ Copies lead (n + 1) i j) ↔
      ∃ k, (copy places).testBit k = true ∧ Copies lead n k j := by
  constructor
  · rintro ⟨i, hi, k, hlead, hrest⟩
    exact ⟨k, (hfollows.testBit_iff hbelow k).2 ⟨i, hi, hlead⟩, hrest⟩
  · rintro ⟨k, hk, hrest⟩
    obtain ⟨i, hi, hlead⟩ := (hfollows.testBit_iff hbelow k).1 hk
    exact ⟨i, hi, k, hlead, hrest⟩

/-- Copies lead nowhere else once they lead to the places where they start. -/
theorem exists_copies_of_fixed (hfollows : Follows length lead copy)
    (hbelow : places.Below length) (hfixed : copy places = places) (n : Nat) :
    (∃ i, places.testBit i = true ∧ Copies lead n i j) ↔ places.testBit j = true := by
  induction n with
  | zero => simp [Copies]
  | succ n ih => rw [hfollows.exists_copies_succ_iff hbelow, hfixed, ih]

theorem testBit_afterCopies (hfollows : Follows length lead copy) (n : Nat) :
    ∀ {places : Places}, places.Below length →
      ((afterCopies copy n places).testBit j = true ↔
        ∃ i, places.testBit i = true ∧ Copies lead n i j) := by
  induction n with
  | zero =>
    intro places _
    simp [afterCopies, Copies]
  | succ n ih =>
    intro places hbelow
    rw [afterCopies]
    split
    · rename_i hfixed
      exact (hfollows.exists_copies_of_fixed hbelow hfixed (n + 1)).symm
    · rw [ih (hfollows.below hbelow), hfollows.exists_copies_succ_iff hbelow]

/-! ## Repetitions -/

theorem subset_withCopies (n : Nat) : ∀ {known reached fresh : Places},
    reached.testBit j = true → (withCopies copy n known reached fresh).testBit j = true := by
  induction n with
  | zero =>
    intro known reached fresh hj
    exact hj
  | succ n ih =>
    intro known reached fresh hj
    have hmore : (reached ||| copy fresh).testBit j = true := by simp [Nat.testBit_or, hj]
    rw [withCopies]
    split
    · exact hmore
    · exact ih hmore

/-- What is reached is reached by some copies. -/
theorem withCopies_sound (hfollows : Follows length lead copy) (n : Nat) :
    ∀ {known reached fresh : Places}, fresh.Below length →
      (withCopies copy n known reached fresh).testBit j = true →
      reached.testBit j = true ∨
        ∃ m, m < n ∧ ∃ i, fresh.testBit i = true ∧ Copies lead (m + 1) i j := by
  induction n with
  | zero =>
    intro known reached fresh _ hj
    exact .inl hj
  | succ n ih =>
    intro known reached fresh hbelow hj
    have hone : (reached ||| copy fresh).testBit j = true → reached.testBit j = true ∨
        ∃ m, m < n + 1 ∧ ∃ i, fresh.testBit i = true ∧ Copies lead (m + 1) i j := by
      intro hj
      rw [Nat.testBit_or, Bool.or_eq_true] at hj
      refine hj.imp_right fun hj => ⟨0, Nat.succ_pos n, ?_⟩
      rw [hfollows.exists_copies_succ_iff hbelow]
      exact ⟨j, hj, rfl⟩
    rw [withCopies] at hj
    split at hj
    · exact hone hj
    · have hunknown : ∀ i, ((copy fresh).without known).testBit i = true →
          (copy fresh).testBit i = true := by
        intro i hi
        rw [Places.testBit_without, Bool.and_eq_true] at hi
        exact hi.1
      have hbelow' : ((copy fresh).without known).Below length :=
        fun i hi => hfollows.below hbelow i (hunknown i hi)
      rcases ih hbelow' hj with hreached | ⟨m, hm, i, hi, hcopies⟩
      · exact hone hreached
      · refine .inr ⟨m + 1, Nat.succ_lt_succ hm, ?_⟩
        rw [hfollows.exists_copies_succ_iff hbelow]
        exact ⟨i, hunknown i hi, hcopies⟩

/-- The places that are fresh are known, and what the other known places lead to is
known and reached. -/
structure Explored (length : Nat) (lead : Nat → Nat → Prop) (known reached fresh : Places) :
    Prop where
  below : known.Below length
  fresh_known : ∀ i, fresh.testBit i = true → known.testBit i = true
  closed : ∀ {i j}, known.testBit i = true → fresh.testBit i = false → lead i j →
    known.testBit j = true ∧ reached.testBit j = true

theorem Explored.fresh_below (hexplored : Explored length lead known reached fresh) :
    fresh.Below length :=
  fun i hi => hexplored.below i (hexplored.fresh_known i hi)

/-- After one more copy, what a known place leads to is known and reached. -/
theorem Explored.leads_on (hexplored : Explored length lead known reached fresh)
    (hfollows : Follows length lead copy) (hi : known.testBit i = true) (hlead : lead i j) :
    (known ||| (copy fresh).without known).testBit j = true ∧
      (reached ||| copy fresh).testBit j = true := by
  simp only [Nat.testBit_or, Places.testBit_without]
  cases hfresh : fresh.testBit i with
  | true =>
    have hfurther : (copy fresh).testBit j = true :=
      (hfollows.testBit_iff hexplored.fresh_below j).2 ⟨i, hfresh, hlead⟩
    cases hknown : known.testBit j <;> simp [hfurther]
  | false =>
    obtain ⟨hknown, hreached⟩ := hexplored.closed hi hfresh hlead
    simp [hknown, hreached]

theorem Explored.next (hexplored : Explored length lead known reached fresh)
    (hfollows : Follows length lead copy) :
    Explored length lead (known ||| (copy fresh).without known) (reached ||| copy fresh)
      ((copy fresh).without known) where
  below i hi := by
    simp only [Nat.testBit_or, Places.testBit_without, Bool.or_eq_true, Bool.and_eq_true] at hi
    rcases hi with hi | ⟨hi, -⟩
    · exact hexplored.below i hi
    · exact hfollows.below hexplored.fresh_below i hi
  fresh_known i hi := by
    rw [Nat.testBit_or, hi, Bool.or_true]
  closed {i j} hi hfresh hlead := by
    rw [Nat.testBit_or, hfresh, Bool.or_false] at hi
    exact hexplored.leads_on hfollows hi hlead

/-- How many places of a text are not in the set. -/
def missing (length : Nat) (places : Places) : Nat :=
  ((Finset.range (length + 1)).filter fun i => places.testBit i = false).card

theorem missing_lt_succ (hi : places.testBit i = true) (hle : i ≤ length) :
    missing length places < length + 1 := by
  have hfewer : missing length places < (Finset.range (length + 1)).card := by
    refine Finset.card_lt_card (Finset.filter_ssubset.2 ⟨i, ?_, ?_⟩)
    · exact Finset.mem_range.2 (Nat.lt_succ_of_le hle)
    · simp [hi]
  rwa [Finset.card_range] at hfewer

theorem Explored.missing_lt (hexplored : Explored length lead known reached fresh)
    (hfollows : Follows length lead copy) (hne : (copy fresh).without known ≠ 0) :
    missing length (known ||| (copy fresh).without known) < missing length known := by
  obtain ⟨i, hi⟩ := Nat.exists_testBit_of_ne_zero hne
  have hsplit := hi
  rw [Places.testBit_without, Bool.and_eq_true, Bool.not_eq_true'] at hsplit
  obtain ⟨hfurther, hunknown⟩ := hsplit
  have hle : i ≤ length := hfollows.below hexplored.fresh_below i hfurther
  refine Finset.card_lt_card (Finset.ssubset_iff_of_subset ?_ |>.2 ⟨i, ?_, ?_⟩)
  · intro k hk
    rw [Finset.mem_filter, Nat.testBit_or, Bool.or_eq_false_iff] at hk
    exact Finset.mem_filter.2 ⟨hk.1, hk.2.1⟩
  · exact Finset.mem_filter.2 ⟨Finset.mem_range.2 (Nat.lt_succ_of_le hle), hunknown⟩
  · rw [Finset.mem_filter, Nat.testBit_or, hi, Bool.or_true]
    simp

/-- If a copy leads to no place that is not known, all is reached. -/
theorem Explored.complete (hexplored : Explored length lead known reached fresh)
    (hfollows : Follows length lead copy) (hnone : (copy fresh).without known = 0) (m : Nat) :
    ∀ {i}, known.testBit i = true → Copies lead (m + 1) i j →
      (reached ||| copy fresh).testBit j = true := by
  induction m with
  | zero =>
    rintro i hi ⟨k, hlead, rfl⟩
    exact (hexplored.leads_on hfollows hi hlead).2
  | succ m ih =>
    rintro i hi ⟨k, hlead, hrest⟩
    have hk := (hexplored.leads_on hfollows hi hlead).1
    rw [hnone, Nat.or_zero] at hk
    exact ih hk hrest

/-- All is reached that is reached by so many copies, and if there are more copies
than places that are not known, then all that is reached at all. -/
theorem withCopies_complete (hfollows : Follows length lead copy) (n : Nat) :
    ∀ {known reached fresh : Places}, Explored length lead known reached fresh →
      ∀ {m i}, m < n ∨ missing length known < n → known.testBit i = true →
        Copies lead (m + 1) i j → (withCopies copy n known reached fresh).testBit j = true := by
  induction n with
  | zero =>
    intro known reached fresh _ m i henough
    omega
  | succ n ih =>
    intro known reached fresh hexplored m i henough hi hcopies
    rw [withCopies]
    split
    · rename_i hnone
      exact hexplored.complete hfollows hnone m hi hcopies
    · rename_i hsome
      have hless := hexplored.missing_lt hfollows hsome
      obtain ⟨k, hlead, hrest⟩ := hcopies
      obtain ⟨hknown, hreached⟩ := hexplored.leads_on hfollows hi hlead
      cases m with
      | zero =>
        obtain rfl : k = j := hrest
        exact subset_withCopies n hreached
      | succ m => exact ih (hexplored.next hfollows) (by omega) hknown hrest

/-- The places that a repetition starts from have not been followed yet. -/
theorem explored_start (hbelow : places.Below length) (reached : Places) :
    Explored length lead places reached places where
  below := hbelow
  fresh_known _ hi := hi
  closed hi hnot _ := by
    rw [hi] at hnot
    cases hnot

/-- Some further copies, as many as are allowed. -/
theorem testBit_withCopies (hfollows : Follows length lead copy) (hbelow : places.Below length)
    (reached : Places) (hi : Option Nat) :
    (withCopies copy (hi.getD (length + 1)) places reached places).testBit j = true ↔
      reached.testBit j = true ∨
        ∃ m, (∀ most ∈ hi, m < most) ∧ ∃ i, places.testBit i = true ∧ Copies lead (m + 1) i j := by
  constructor
  · intro hj
    refine (hfollows.withCopies_sound _ hbelow hj).imp_right ?_
    rintro ⟨m, hm, hcopies⟩
    refine ⟨m, ?_, hcopies⟩
    rintro most ⟨⟩
    exact hm
  · rintro (hj | ⟨m, hm, i, hi', hcopies⟩)
    · exact subset_withCopies _ hj
    · refine hfollows.withCopies_complete _ (explored_start hbelow reached) ?_ hi' hcopies
      cases hi with
      | none => exact .inr (missing_lt_succ hi' (hbelow i hi'))
      | some most => exact .inl (hm most rfl)

end Follows

/-! ## Patterns over a text -/

theorem follows_rep_zero {copy : Places → Places}
    (hfollows : Follows text.length (r.Leads text) copy) (hi : Option Nat) :
    Follows text.length ((Re.rep 0 hi r).Leads text)
      fun places => withCopies copy (hi.getD (text.length + 1)) places places places where
  le_length := Re.Leads.le_length
  testBit_iff {places} hbelow j := by
    rw [hfollows.testBit_withCopies hbelow]
    simp only [leads_rep_iff]
    constructor
    · rintro (hj | ⟨m, hm, i, hi, hcopies⟩)
      · exact ⟨j, hj, hbelow j hj, 0, ⟨Nat.le_refl 0, fun most _ => Nat.zero_le most⟩, rfl⟩
      · exact ⟨i, hi, hbelow i hi, m + 1, ⟨Nat.zero_le _, hm⟩, hcopies⟩
    · rintro ⟨i, hi, -, n, ⟨-, hn⟩, hcopies⟩
      cases n with
      | zero =>
        obtain rfl : i = j := hcopies
        exact .inl hi
      | succ m => exact .inr ⟨m, hn, i, hi, hcopies⟩

theorem follows_rep_succ {copy : Places → Places}
    (hfollows : Follows text.length (r.Leads text) copy) (lo : Nat) (hi : Option Nat) :
    Follows text.length ((Re.rep (lo + 1) hi r).Leads text) fun places =>
      withCopies copy ((hi.map (· - lo)).getD (text.length + 1)) (afterCopies copy lo places) 0
        (afterCopies copy lo places) where
  le_length := Re.Leads.le_length
  testBit_iff {places} hbelow j := by
    have hleast := fun j => hfollows.testBit_afterCopies (j := j) lo hbelow
    have hbelow' : (afterCopies copy lo places).Below text.length := by
      intro k hk
      obtain ⟨i, hi, hcopies⟩ := (hleast k).1 hk
      cases lo with
      | zero =>
        obtain rfl : i = k := hcopies
        exact hbelow i hi
      | succ lo =>
        obtain ⟨l, -, k', hlead, rfl⟩ := (copies_add_iff lo 1).1 hcopies
        exact hlead.le_length
    rw [hfollows.testBit_withCopies hbelow']
    simp only [leads_rep_iff]
    constructor
    · rintro (hj | ⟨m, hm, k, hk, hcopies⟩)
      · simp at hj
      · obtain ⟨i, hi', hbefore⟩ := (hleast k).1 hk
        refine ⟨i, hi', hbelow i hi', lo + (m + 1), ⟨by omega, fun most hmost => ?_⟩,
          (copies_add_iff lo (m + 1)).2 ⟨k, hbefore, hcopies⟩⟩
        have hless := hm (most - lo) (by simp [Option.mem_def.1 hmost])
        omega
    · rintro ⟨i, hi', -, n, ⟨hlo, hn⟩, hcopies⟩
      obtain ⟨m, rfl⟩ : ∃ m, n = lo + (m + 1) := ⟨n - lo - 1, by omega⟩
      obtain ⟨k, hbefore, hafter⟩ := (copies_add_iff lo (m + 1)).1 hcopies
      refine .inr ⟨m, fun most hmost => ?_, k, (hleast k).2 ⟨i, hi', hbefore⟩, hafter⟩
      obtain ⟨bound, hbound, rfl⟩ := Option.map_eq_some_iff.1 (Option.mem_def.1 hmost)
      have hle := hn bound hbound
      omega

/-- A pattern laid over a text leads from place to place as the pattern does. -/
theorem follows_over (text : List Char) (r : Re) :
    Follows text.length (r.Leads text) ((r.over text).reach text.length) := by
  refine ⟨Re.Leads.le_length, ?_⟩
  induction r with
  | empty =>
    intro places hbelow j
    simp only [leads_empty_iff]
    constructor
    · intro hj
      exact ⟨j, hj, hbelow j hj, rfl⟩
    · rintro ⟨i, hi, -, rfl⟩
      exact hi
  | set s =>
    intro places hbelow j
    simp only [leads_set_iff]
    rw [Re.over, Overlay.reach, Places.testBit_next, Bool.and_eq_true, decide_eq_true_iff,
      Nat.testBit_and, Bool.and_eq_true, Places.testBit_ofList]
    constructor
    · rintro ⟨hpos, hplace, hchar⟩
      exact ⟨j - 1, hplace, hchar, by omega⟩
    · rintro ⟨i, hplace, hchar, rfl⟩
      exact ⟨Nat.succ_pos i, hplace, hchar⟩
  | look l =>
    intro places hbelow j
    simp only [leads_look_iff]
    rw [Re.over, Overlay.reach, Nat.testBit_and, Bool.and_eq_true, Places.testBit_ofList]
    constructor
    · rintro ⟨hplace, hholds⟩
      exact ⟨j, hplace, hholds, rfl⟩
    · rintro ⟨i, hplace, hholds, rfl⟩
      exact ⟨hplace, hholds⟩
  | seq a b iha ihb =>
    intro places hbelow j
    have hfollows : Follows text.length (a.Leads text) ((a.over text).reach text.length) :=
      ⟨Re.Leads.le_length, iha⟩
    simp only [leads_seq_iff]
    rw [Re.over, Overlay.reach, ihb (hfollows.below hbelow)]
    constructor
    · rintro ⟨k, hk, hsecond⟩
      obtain ⟨i, hi, hfirst⟩ := (iha hbelow k).1 hk
      exact ⟨i, hi, k, hfirst, hsecond⟩
    · rintro ⟨i, hi, k, hfirst, hsecond⟩
      exact ⟨k, (iha hbelow k).2 ⟨i, hi, hfirst⟩, hsecond⟩
  | alt a b iha ihb =>
    intro places hbelow j
    simp only [leads_alt_iff]
    rw [Re.over, Overlay.reach, Nat.testBit_or, Bool.or_eq_true, iha hbelow, ihb hbelow,
      ← exists_or]
    exact exists_congr fun i => and_or_left.symm
  | rep lo hi r ih =>
    have hfollows : Follows text.length (r.Leads text) ((r.over text).reach text.length) :=
      ⟨Re.Leads.le_length, ih⟩
    cases lo with
    | zero =>
      intro places hbelow j
      rw [← (follows_rep_zero hfollows hi).testBit_iff hbelow]
      cases hi <;> rfl
    | succ lo =>
      intro places hbelow j
      rw [← (follows_rep_succ hfollows lo hi).testBit_iff hbelow]
      cases hi <;> rfl

/-! ## The matcher -/

/-- The matcher finds a pattern in a text just if the pattern occurs there. -/
theorem Re.occursIn_iff (r : Re) (text : List Char) :
    r.occursIn text = true ↔ Occurs r text := by
  have hall : (Places.all text.length).Below text.length := by
    intro i hi
    simpa [Places.testBit_all] using hi
  have hreach := (follows_over text r).testBit_iff hall
  rw [occursIn, bne_iff_ne]
  constructor
  · intro hne
    obtain ⟨j, hj⟩ := Nat.exists_testBit_of_ne_zero hne
    obtain ⟨i, -, pre, w, post, htext, -, -, hmatches⟩ := (hreach j).1 hj
    exact ⟨pre, w, post, htext, hmatches⟩
  · rintro ⟨pre, w, post, htext, hmatches⟩ hzero
    have hleads : r.Leads text pre.length (pre.length + w.length) :=
      ⟨pre, w, post, htext, rfl, rfl, hmatches⟩
    have hstart : (Places.all text.length).testBit pre.length = true := by
      rw [Places.testBit_all, decide_eq_true_iff, htext]
      simp only [List.length_append]
      omega
    have hj := (hreach _).2 ⟨pre.length, hstart, hleads⟩
    rw [hzero, Nat.zero_testBit] at hj
    cases hj

end FieldRules.Pattern
