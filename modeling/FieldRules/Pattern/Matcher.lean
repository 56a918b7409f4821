import FieldRules.Pattern.Core
import FieldRules.Pattern.Places

/-!
# The matcher

The matcher follows all attempts at once: it works out which places of the text
a pattern can lead to from a set of places.

* `Re.over` lays a pattern over a text.  A set of characters becomes the places
  that are followed by one of them, a condition the places where it holds.
* `Overlay.reach` leads from a set of places to the places behind the words that
  are accepted from there.
* `Re.occursIn` starts at every place of the text and asks whether any place can
  be reached.

A counted repetition first takes the copies it must take.  Of those that it may
take it need not follow a place that it has been at with fewer copies, so the
copies end when no fresh place turns up, even where their number has no bound.
-/

namespace FieldRules.Pattern

/-- A pattern laid over a text: a step consumes the character behind one of the
places, a stay consumes nothing. -/
inductive Overlay where
  | empty
  | step (places : Places)
  | stay (places : Places)
  | seq (first second : Overlay)
  | alt (left right : Overlay)
  | rep (lo : Nat) (hi : Option Nat) (body : Overlay)
  deriving DecidableEq, Repr, Inhabited

/-- Whether a condition holds at each place of a text with a neighbour before it. -/
def Look.holdsAlong (look : Look) (before : Option Char) : List Char → List Bool
  | [] => [look.holds before none]
  | c :: rest => look.holds before (some c) :: look.holdsAlong (some c) rest

/-- The pattern laid over a text. -/
def Re.over (text : List Char) : Re → Overlay
  | empty => .empty
  | set s => .step (.ofList (text.map s.contains))
  | look l => .stay (.ofList (l.holdsAlong none text))
  | seq a b => .seq (a.over text) (b.over text)
  | alt a b => .alt (a.over text) (b.over text)
  | rep lo hi r => .rep lo hi (r.over text)

/-- The places behind exactly `n` copies, one of which leads from a set of places
to that of `copy`. -/
def afterCopies (copy : Places → Places) : Nat → Places → Places
  | 0, places => places
  | n + 1, places =>
    let further := copy places
    if further = places then places else afterCopies copy n further

/-- The places that are reached, together with those behind at most `n` further
copies.  The last copy led to the places `fresh`; `known` are all the places
that a copy has been taken from. -/
def withCopies (copy : Places → Places) : Nat → (known reached fresh : Places) → Places
  | 0, _, reached, _ => reached
  | n + 1, known, reached, fresh =>
    let further := copy fresh
    let unknown := further.without known
    if unknown = 0 then reached ||| further
    else withCopies copy n (known ||| unknown) (reached ||| further) unknown

/-- The places behind the words that are accepted from a set of places of a text
with `length` characters. -/
def Overlay.reach (length : Nat) : Overlay → Places → Places
  | empty, places => places
  | step here, places => (places &&& here).next
  | stay here, places => places &&& here
  | seq a b, places => b.reach length (a.reach length places)
  | alt a b, places => a.reach length places ||| b.reach length places
  | rep 0 hi r, places => withCopies (r.reach length) (hi.getD (length + 1)) places places places
  | rep (lo + 1) hi r, places =>
    let least := afterCopies (r.reach length) lo places
    let more := match hi with
      | none => length + 1
      | some hi => hi - lo
    withCopies (r.reach length) more least 0 least

/-- Whether the pattern occurs anywhere in the text. -/
def Re.occursIn (r : Re) (text : List Char) : Bool :=
  (r.over text).reach text.length (.all text.length) != 0

end FieldRules.Pattern
