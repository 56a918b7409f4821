import Mathlib.Data.List.Pairwise
import FieldRules.Unicode.CaseFold

/-!
# Case variants

The runs of the case folding do not overlap, and nothing that one of them leads
to is folded again.  So folding a character twice is folding it once, and the
variants of a character are the characters with its folded form.

* `foldCode_foldCode`: the folded form of a code point is its own folded form.
* `mem_variants_iff`: the variants of a character, by their folded form.
* `simpleFold_eq_iff_of_lt`: characters below the letters have no other variants.
-/

namespace FieldRules.Unicode.CaseFold

variable {run other : Run} {n m : Nat} {c d : Char}

/-! ## The table -/

/-- All numbers from `lo` to `hi` are code points of characters. -/
def CharInterval (lo hi : Nat) : Prop :=
  hi < 0xD800 ∨ 0xDFFF < lo ∧ hi < 0x110000

instance (lo hi : Nat) : Decidable (CharInterval lo hi) :=
  inferInstanceAs (Decidable (_ ∨ _))

theorem CharInterval.isValidChar {lo hi : Nat} (hchars : CharInterval lo hi) (hlo : lo ≤ n)
    (hhi : n ≤ hi) : n.isValidChar := by
  unfold CharInterval at hchars
  unfold Nat.isValidChar
  omega

theorem toNat_ofNat (hvalid : n.isValidChar) : (Char.ofNat n).toNat = n := by
  rw [Char.ofNat, dif_pos hvalid]
  rfl

/-- What holds of each number of an interval holds of the characters in it, so that these
can be gone through one by one. -/
theorem forall_of_interval {p : Char → Prop} {lo hi : Nat}
    (hall : ∀ n < hi + 1, lo ≤ n → p (Char.ofNat n)) :
    ∀ c : Char, lo ≤ c.toNat → c.toNat ≤ hi → p c := by
  intro c hlo hhi
  have hc := hall c.toNat (Nat.lt_succ_of_le hhi) hlo
  rwa [Char.ofNat_toNat] at hc

/-- The run starts before it ends, and leads from characters to characters. -/
structure Run.Sound (run : Run) : Prop where
  first_le : run.first ≤ run.last
  sources : CharInterval run.first run.last
  targets : CharInterval run.target (run.target + (run.last - run.first))

instance (run : Run) : Decidable run.Sound :=
  decidable_of_iff (run.first ≤ run.last ∧ CharInterval run.first run.last ∧
      CharInterval run.target (run.target + (run.last - run.first)))
    ⟨fun ⟨hle, hsources, htargets⟩ => ⟨hle, hsources, htargets⟩,
      fun ⟨hle, hsources, htargets⟩ => ⟨hle, hsources, htargets⟩⟩

/-- The run leads to no code point that the other one folds: their intervals lie
apart, or every second code point is meant and they are not the same ones. -/
def Run.misses (run other : Run) : Bool :=
  -- a comparison that the kernel works out at once, as there are many pairs of runs
  Nat.blt (run.target + (run.last - run.first)) other.first || Nat.blt other.last run.target ||
    Nat.beq other.stride 2 && (Nat.beq run.stride 2 || Nat.beq run.last run.first) &&
      Nat.beq ((run.target + other.first) % 2) 1

theorem sound_of_mem : ∀ run ∈ runs, run.Sound := by decide +kernel

/-- Nothing below the letters is folded or led to. -/
theorem letters_of_mem : ∀ run ∈ runs, 'A'.toNat ≤ run.first ∧ 'A'.toNat ≤ run.target := by
  decide +kernel

theorem isChain_runs : runs.IsChain fun run other =>
    run.last < other.first ∧ other.first ≤ other.last := by
  decide +kernel

/-- Each run ends before the next ones start. -/
theorem pairwise_runs : runs.Pairwise fun run other => run.last < other.first := by
  let behind (run other : Run) := run.last < other.first ∧ other.first ≤ other.last
  have : Trans behind behind behind := by
    refine ⟨fun {a b c} hab hbc => ⟨?_, hbc.2⟩⟩
    obtain ⟨hends, hle⟩ := hab
    obtain ⟨hends', -⟩ := hbc
    omega
  exact (List.IsChain.pairwise isChain_runs).imp And.left

theorem all_misses : (runs.all fun run => runs.all run.misses) = true := by decide +kernel

theorem misses_of_mem (hrun : run ∈ runs) (hother : other ∈ runs) : run.misses other = true :=
  List.all_eq_true.1 (List.all_eq_true.1 all_misses run hrun) other hother

/-! ## Runs -/

theorem Run.image?_eq_some_iff : run.image? n = some m ↔
    (run.first ≤ n ∧ n ≤ run.last ∧ (n - run.first) % run.stride = 0) ∧
      n - run.first + run.target = m := by
  rw [image?, Option.ite_none_right_eq_some, Option.some.injEq]

/-- A run is read backwards. -/
theorem Run.preimage?_eq_some_iff (hle : run.first ≤ run.last) :
    run.preimage? m = some n ↔ run.image? n = some m := by
  rw [image?_eq_some_iff, preimage?, Option.ite_none_right_eq_some, Option.some.injEq]
  constructor
  · rintro ⟨⟨hlow, hhigh, hstride⟩, rfl⟩
    have hoffset : m - run.target + run.first - run.first = m - run.target := by omega
    rw [hoffset]
    exact ⟨⟨by omega, by omega, hstride⟩, by omega⟩
  · rintro ⟨⟨hlow, hhigh, hstride⟩, rfl⟩
    have hoffset : n - run.first + run.target - run.target = n - run.first := by omega
    rw [hoffset]
    exact ⟨⟨by omega, by omega, hstride⟩, by omega⟩

theorem Run.image?_eq_none_of_misses (hmisses : run.misses other = true)
    (himage : run.image? n = some m) : other.image? m = none := by
  obtain ⟨⟨hlow, hhigh, hstride⟩, rfl⟩ := image?_eq_some_iff.1 himage
  simp only [misses, Bool.or_eq_true, Bool.and_eq_true, Nat.blt_eq, Nat.beq_eq] at hmisses
  refine if_neg ?_
  rintro ⟨hlow', hhigh', hstride'⟩
  rcases hmisses with (hbelow | habove) | ⟨⟨htwo, hsteps⟩, hodd⟩
  · omega
  · omega
  · rw [htwo] at hstride'
    rcases hsteps with hsteps | hsingle
    · rw [hsteps] at hstride
      omega
    · omega

/-! ## Folding -/

theorem exists_image?_or_foldCode_eq (n : Nat) :
    (∃ run ∈ runs, run.image? n = some (foldCode n)) ∨ foldCode n = n := by
  unfold foldCode
  cases hfound : runs.findSome? (·.image? n) with
  | none => exact .inr rfl
  | some m =>
    obtain ⟨run, hrun, himage⟩ := List.exists_of_findSome?_eq_some hfound
    exact .inl ⟨run, hrun, himage⟩

theorem foldCode_of_image? (hrun : run ∈ runs) (himage : run.image? n = some m) :
    foldCode n = m := by
  obtain ⟨before, after, hsplit⟩ := List.append_of_mem hrun
  have hfound : runs.findSome? (·.image? n) = some m := by
    refine List.findSome?_eq_some_iff.2 ⟨before, run, after, hsplit, himage, ?_⟩
    intro other hother
    -- the runs before this one end below it
    have hbelow : other.last < run.first := by
      have hpairwise := pairwise_runs
      rw [hsplit, List.pairwise_append] at hpairwise
      exact hpairwise.2.2 other hother run List.mem_cons_self
    obtain ⟨⟨hlow, -, -⟩, -⟩ := Run.image?_eq_some_iff.1 himage
    refine if_neg ?_
    omega
  rw [foldCode, hfound, Option.getD_some]

theorem foldCode_of_image?_eq_none (hnone : ∀ run ∈ runs, run.image? n = none) :
    foldCode n = n := by
  rw [foldCode, List.findSome?_eq_none_iff.2 hnone, Option.getD_none]

/-- What has been folded is not folded again. -/
theorem foldCode_foldCode (n : Nat) : foldCode (foldCode n) = foldCode n := by
  rcases exists_image?_or_foldCode_eq n with ⟨run, hrun, himage⟩ | heq
  · refine foldCode_of_image?_eq_none fun other hother => ?_
    exact Run.image?_eq_none_of_misses (misses_of_mem hrun hother) himage
  · rw [heq, heq]

theorem isValidChar_foldCode (c : Char) : (foldCode c.toNat).isValidChar := by
  rcases exists_image?_or_foldCode_eq c.toNat with ⟨run, hrun, himage⟩ | heq
  · obtain ⟨⟨hlow, hhigh, -⟩, hfolded⟩ := Run.image?_eq_some_iff.1 himage
    exact (sound_of_mem run hrun).targets.isValidChar (by omega) (by omega)
  · rw [heq]
    exact c.valid

theorem simpleFold_eq_iff : simpleFold d = simpleFold c ↔ foldCode d.toNat = foldCode c.toNat := by
  constructor
  · intro heq
    have htoNat := congrArg Char.toNat heq
    unfold simpleFold at htoNat
    rwa [toNat_ofNat (isValidChar_foldCode d),
      toNat_ofNat (isValidChar_foldCode c)] at htoNat
  · intro heq
    rw [simpleFold, heq, simpleFold]

/-- The variants of a character are the characters with its folded form. -/
theorem mem_variants_iff : d ∈ variants c ↔ simpleFold d = simpleFold c := by
  rw [simpleFold_eq_iff]
  unfold variants
  dsimp only
  rw [List.mem_map]
  constructor
  · rintro ⟨m, hm, rfl⟩
    rcases List.mem_cons.1 hm with rfl | hm
    · rw [toNat_ofNat (isValidChar_foldCode c), foldCode_foldCode]
    · obtain ⟨run, hrun, hpreimage⟩ := List.mem_filterMap.1 hm
      have hsound := sound_of_mem run hrun
      have himage := (Run.preimage?_eq_some_iff hsound.first_le).1 hpreimage
      obtain ⟨⟨hlow, hhigh, -⟩, -⟩ := Run.image?_eq_some_iff.1 himage
      rw [toNat_ofNat (hsound.sources.isValidChar hlow hhigh)]
      exact foldCode_of_image? hrun himage
  · intro heq
    refine ⟨d.toNat, ?_, Char.ofNat_toNat d⟩
    rcases exists_image?_or_foldCode_eq d.toNat with ⟨run, hrun, himage⟩ | hself
    · rw [heq] at himage
      refine List.mem_cons_of_mem _ (List.mem_filterMap.2 ⟨run, hrun, ?_⟩)
      exact (Run.preimage?_eq_some_iff (sound_of_mem run hrun).first_le).2 himage
    · rw [← hself, heq]
      exact List.mem_cons_self

/-- Digits, punctuation marks and the like are below the letters and have no case. -/
theorem simpleFold_eq_iff_of_lt (hd : d.toNat < 'A'.toNat) :
    simpleFold d = simpleFold c ↔ d = c := by
  refine ⟨fun heq => ?_, congrArg simpleFold⟩
  have hself : foldCode d.toNat = d.toNat := by
    refine foldCode_of_image?_eq_none fun run hrun => if_neg ?_
    have hletters := letters_of_mem run hrun
    omega
  rw [simpleFold_eq_iff, hself] at heq
  rcases exists_image?_or_foldCode_eq c.toNat with ⟨run, hrun, himage⟩ | hother
  · obtain ⟨-, hfolded⟩ := Run.image?_eq_some_iff.1 himage
    have hletters := letters_of_mem run hrun
    omega
  · exact Char.toNat_inj.1 (heq.trans hother)

example : variants 'k' = ['k', 'K', '\u212A'] := by decide +kernel

end FieldRules.Unicode.CaseFold
