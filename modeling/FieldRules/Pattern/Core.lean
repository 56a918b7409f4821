import FieldRules.Pattern.CharSet

/-!
# Core patterns and their language

A core pattern is built from sets of characters, conditions on the neighbours
of a place in the text, sequence, choice and counted repetition.

`Matches r before w after` says that `r` accepts the word `w` standing between
the characters `before` and `after` (`none` at an end of the text).  Only the
two neighbours matter, because every condition looks one character to each
side.
-/

namespace FieldRules.Pattern

/-- The kinds of edges of a word. -/
inductive WordEdge where
  | boundary
  | inside
  | start
  | stop
  | startHalf
  | stopHalf
  deriving DecidableEq, Repr

/-- A condition on the two neighbours of a place in the text. -/
inductive Look where
  | textStart
  | textEnd
  | lineStart
  | lineEnd
  | crlfLineStart
  | crlfLineEnd
  | word (edge : WordEdge) (wordChars : CharSet)
  deriving DecidableEq, Repr

/-- Whether the condition holds between two neighbours. -/
def Look.holds (look : Look) (before after : Option Char) : Bool :=
  match look with
  | textStart => before.isNone
  | textEnd => after.isNone
  | lineStart => before.isNone || before == some '\n'
  | lineEnd => after.isNone || after == some '\n'
  | crlfLineStart =>
    before.isNone || before == some '\n' || (before == some '\r' && after != some '\n')
  | crlfLineEnd =>
    after.isNone || after == some '\r' || (after == some '\n' && before != some '\r')
  | word edge wordChars =>
    let left := before.any wordChars.contains
    let right := after.any wordChars.contains
    match edge with
    | .boundary => left != right
    | .inside => left == right
    | .start => !left && right
    | .stop => left && !right
    | .startHalf => !left
    | .stopHalf => !right

/-- A core pattern.  A repetition without an upper bound has `hi = none`. -/
inductive Re where
  | empty
  | set (set : CharSet)
  | look (look : Look)
  | seq (first second : Re)
  | alt (left right : Re)
  | rep (lo : Nat) (hi : Option Nat) (body : Re)
  deriving DecidableEq, Repr, Inhabited

/-- The neighbour before a place that is reached after the word `w`. -/
def lastOr (before : Option Char) (w : List Char) : Option Char :=
  w.getLast?.or before

/-- The neighbour after a place that is followed by the word `w`. -/
def headOr (w : List Char) (after : Option Char) : Option Char :=
  w.head?.or after

/-- Whether a repetition between the bounds may take one more copy. -/
def allowsMore : Option Nat → Bool
  | none => true
  | some 0 => false
  | some (_ + 1) => true

/-- The upper bound that is left after one copy. -/
def oneLess : Option Nat → Option Nat
  | none => none
  | some n => some (n - 1)

/-- The words that a pattern accepts between two neighbours. -/
inductive Matches : Re → Option Char → List Char → Option Char → Prop where
  | empty {before after} : Matches .empty before [] after
  | set {s : CharSet} {c before after} (mem : s.contains c = true) :
      Matches (.set s) before [c] after
  | look {l : Look} {before after} (holds : l.holds before after = true) :
      Matches (.look l) before [] after
  | seq {a b before u v after} (first : Matches a before u (headOr v after))
      (second : Matches b (lastOr before u) v after) :
      Matches (.seq a b) before (u ++ v) after
  | altLeft {a b before w after} (left : Matches a before w after) :
      Matches (.alt a b) before w after
  | altRight {a b before w after} (right : Matches b before w after) :
      Matches (.alt a b) before w after
  | repDone {r hi before after} : Matches (.rep 0 hi r) before [] after
  | repMore {r lo hi before u v after} (more : allowsMore hi = true)
      (first : Matches r before u (headOr v after))
      (rest : Matches (.rep (lo - 1) (oneLess hi) r) (lastOr before u) v after) :
      Matches (.rep lo hi r) before (u ++ v) after

/-- A pattern occurs in a text if it accepts some stretch of it. -/
def Occurs (r : Re) (text : List Char) : Prop :=
  ∃ pre w post, text = pre ++ w ++ post ∧ Matches r pre.getLast? w post.head?

end FieldRules.Pattern
