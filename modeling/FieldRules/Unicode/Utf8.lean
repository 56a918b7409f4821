import FieldRules.Unicode.Ranges

/-!
# Encodings of intervals

The encoding of a code point has one byte or a leading byte and up to three
further ones.  The encodings of an interval of code points are written as a
list of forms; a form allows an interval of bytes at each place, whatever the
bytes at the other places are.

`forms table` lists the forms of all code points of a table in ascending order.
-/

namespace FieldRules.Unicode.Utf8

/-- An interval of bytes for each place of an encoding. -/
abbrev Form := List (Nat × Nat)

/-- The places behind the leading byte with nothing left out. -/
def freePlaces (count : Nat) : Form := List.replicate count (0x80, 0xBF)

/-- The forms of the numbers from `lo` to `hi`, written as a byte that counts
from `base` and `tail` places of six bits each. -/
def formsBetween : (tail base lo hi : Nat) → List Form
  | 0, base, lo, hi => [[(base + lo, base + hi)]]
  | tail + 1, base, lo, hi =>
    let block := Nat.pow 64 (tail + 1)
    let behind (lead lo hi : Nat) :=
      (formsBetween tail 0x80 lo hi).map ((base + lead, base + lead) :: ·)
    if lo / block = hi / block then behind (lo / block) (lo % block) (hi % block)
    else
      let first := (lo + block - 1) / block
      let stop := (hi + 1) / block
      (if lo % block = 0 then [] else behind (lo / block) (lo % block) (block - 1)) ++
        (if first < stop then [(base + first, base + stop - 1) :: freePlaces (tail + 1)] else []) ++
        (if (hi + 1) % block = 0 then [] else behind (hi / block) 0 (hi % block))

/-- The intervals of code points whose encodings are equally long: their ends,
the places behind the leading byte, and the byte from which that one counts.
Surrogates have no encoding. -/
def lengths : List (Nat × Nat × Nat × Nat) :=
  [(0, 0x7F, 0, 0), (0x80, 0x7FF, 1, 0xC0), (0x800, 0xD7FF, 2, 0xE0), (0xE000, 0xFFFF, 2, 0xE0),
    (0x10000, 0x10FFFF, 3, 0xF0)]

/-- The forms of an interval of code points. -/
def formsOf (lo hi : Nat) : List Form :=
  lengths.flatMap fun (first, last, tail, base) =>
    if hi < first ∨ last < lo then []
    else formsBetween tail base (max lo first) (min hi last)

/-- The forms of the code points of a table. -/
def forms (table : Ranges) : List Form :=
  table.flatMap fun (lo, hi) => formsOf lo hi

/-- How many places two forms have in common from the start. -/
def common : Form → Form → Nat
  | a :: as, b :: bs => if a = b then common as bs + 1 else 0
  | _, _ => 0

/-- How many places the forms have, with those that a form has in common with
the one before it counted once. -/
def distinctPlaces (before : Form) : List Form → Nat
  | [] => 0
  | form :: rest => form.length - common before form + distinctPlaces form rest

end FieldRules.Unicode.Utf8
