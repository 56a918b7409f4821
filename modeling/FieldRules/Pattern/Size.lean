import FieldRules.Pattern.Automaton

/-!
# The size of a pattern

A pattern may not grow too large once its repetitions are written out: both of
its automata have to keep to `sizeLimit`.

`Expr.fits` builds them only where `Expr.bound`, which is quickly worked out and
never too small, leaves the matter open.
-/

namespace FieldRules.Pattern

open Unicode

/-! ## Classes -/

/-- How many members a set of this form can have at most. -/
def CharSet.size : CharSet → Nat
  | table ranges => ranges.foldl (fun total (lo, hi) => total + (hi + 1 - lo)) 0
  | union left right => left.size + right.size
  | inter left right => min left.size right.size
  | compl _ => lastCode + 1
  | variants set => 4 * set.size

/-- How many intervals a set of this form has at most: those with several
members, and those with a single one.  A character has three variants at most,
and fewer than three thousand characters have any. -/
def CharSet.intervals : CharSet → Nat × Nat
  | table ranges =>
    let wide := ranges.countP fun (lo, hi) => lo < hi
    (wide, ranges.length - wide)
  | union left right | inter left right =>
    let (wide, single) := left.intervals
    let (wide', single') := right.intervals
    (wide + wide', single + single')
  | compl set =>
    let (wide, single) := set.intervals
    (wide + single + 1, 0)
  | variants set =>
    let (wide, single) := set.intervals
    (wide, single + min (3 * set.size) 3000)

/-- Whether all tables of a set keep to the seven-bit range. -/
def CharSet.isAscii : CharSet → Bool
  | table ranges => ranges.all fun (_, hi) => hi < 0x80
  | union left right | inter left right => left.isAscii && right.isAscii
  | compl set => set.isAscii
  | variants set => set.isAscii

/-- The bytes that a set needs at most.  An interval has at most twelve forms,
of four places each.  What comes of seven-bit tables has few intervals beyond
them: only two characters there have variants elsewhere. -/
def CharSet.bound (set : CharSet) : Nat :=
  let (wide, single) := set.intervals
  let bytes := 1700 * wide + 170 * single + 64
  if set.isAscii then min bytes 8000 else bytes

/-! ## Patterns -/

/-- The bytes that an automaton for a pattern takes at most, captures aside. -/
def Re.bound : Re → Nat
  | empty => 32
  | set s => s.bound
  | look _ => 32
  | seq a b => a.bound + b.bound
  | alt a b => a.bound + b.bound + 72
  | rep lo none r => r.bound * max lo 1 + 112
  | rep lo (some hi) r => r.bound * max lo hi + 40 * (hi - lo) + 96

/-- How many captures there are once the repetitions are written out. -/
def Expr.captureCopies : Expr → Nat
  | empty | char _ | escapedByte _ | dot | cls _ | anchor _ | change _ => 0
  | seq first second => first.captureCopies + second.captureCopies
  | alt left right => left.captureCopies + right.captureCopies
  | rep body quantifier _ =>
    let (lo, hi) := quantifier.bounds
    body.captureCopies * max 1 (hi.getD lo)
  | capture body => body.captureCopies + 1
  | group _ body => body.captureCopies

/-- The bytes that an automaton takes at most for a written pattern with the
given core: each capture needs two states, and the search around it needs 208
bytes. -/
def Expr.bound (e : Expr) (core : Re) : Nat :=
  core.bound + 64 * e.captureCopies + 208

/-- Whether a written pattern with the given core keeps to the limit. -/
def Expr.fits (options : Options) (e : Expr) (core : Re) : Bool :=
  e.bound core ≤ sizeLimit ||
    (((e.shape options).automaton false).isSome && ((e.shape options).automaton true).isSome)

end FieldRules.Pattern
