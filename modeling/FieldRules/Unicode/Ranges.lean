/-!
# Tables of code points

A property of characters is stored as an ascending list of closed intervals
of code points.  `Ranges.contains` scans such a list and stops at the first
interval that lies above the code point.

`Ranges.union`, `Ranges.compl` and `Ranges.inter` work on whole tables and
give tables in which no two intervals touch.  Surrogates do not count: they lie
in no table, and an interval may reach over them.
-/

namespace FieldRules.Unicode

/-- Closed intervals of code points, in ascending order and disjoint. -/
abbrev Ranges := List (Nat × Nat)

/-- Whether a code point lies in one of the intervals. -/
def Ranges.contains : Ranges → Nat → Bool
  | [], _ => false
  | (lo, hi) :: rest, n =>
    if n < lo then false else if n ≤ hi then true else Ranges.contains rest n

/-- A code point of the table lies in one of its intervals. -/
theorem Ranges.exists_of_contains {table : Ranges} {n : Nat} (h : table.contains n = true) :
    ∃ interval ∈ table, interval.1 ≤ n ∧ n ≤ interval.2 := by
  induction table with
  | nil => simp [Ranges.contains] at h
  | cons head rest ih =>
    obtain ⟨lo, hi⟩ := head
    rw [Ranges.contains] at h
    split at h
    · simp at h
    · split at h
      · exact ⟨(lo, hi), by simp, by simp; omega, by simpa⟩
      · obtain ⟨interval, mem, bounds⟩ := ih h
        exact ⟨interval, List.mem_cons_of_mem _ mem, bounds⟩

/-! ## Whole tables -/

/-- The highest code point. -/
def lastCode : Nat := 0x10FFFF

/-- The interval from `lo` to `hi` and those behind it, with intervals that
overlap or touch made one. -/
def Ranges.joinFrom (lo hi : Nat) : Ranges → Ranges
  | [] => [(lo, hi)]
  | (lo', hi') :: rest =>
    if lo' ≤ hi + 1 then Ranges.joinFrom lo (max hi hi') rest
    else (lo, hi) :: Ranges.joinFrom lo' hi' rest

/-- Intervals that ascend by their lower ends as a table. -/
def Ranges.join : Ranges → Ranges
  | [] => []
  | (lo, hi) :: rest => Ranges.joinFrom lo hi rest

/-- The code points of either table. -/
def Ranges.union (left right : Ranges) : Ranges :=
  Ranges.join (left.merge right fun a b => a.1 ≤ b.1)

/-- The next character.  Surrogates are no characters. -/
def nextCode (n : Nat) : Nat := if n = 0xD7FF then 0xE000 else n + 1

/-- The character before. -/
def previousCode (n : Nat) : Nat := if n = 0xE000 then 0xD7FF else n - 1

/-- The code points from `start` on that lie in no interval. -/
def Ranges.gapsFrom (start : Nat) : Ranges → Ranges
  | [] => if start ≤ lastCode then [(start, lastCode)] else []
  | (lo, hi) :: rest =>
    if start < lo then (start, previousCode lo) :: Ranges.gapsFrom (nextCode hi) rest
    else Ranges.gapsFrom (nextCode hi) rest

/-- The code points that the table lacks. -/
def Ranges.compl (table : Ranges) : Ranges := table.gapsFrom 0

/-- The code points of both tables. -/
def Ranges.inter (left right : Ranges) : Ranges :=
  (left.compl.union right.compl).compl

end FieldRules.Unicode
