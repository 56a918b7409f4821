import FieldRules.Unicode.CaseFold
import FieldRules.Unicode.Category
import FieldRules.Unicode.Property

/-!
# Sets of characters

A set is an expression over tables of code points.  `CharSet.contains` decides
membership by following the expression; `variants s` adds to `s` every
character that differs from a member in case alone.  `CharSet.ranges` works out
the table of all members.
-/

namespace FieldRules.Pattern

open Unicode

/-- A set of characters. -/
inductive CharSet where
  | table (ranges : Ranges)
  | union (left right : CharSet)
  | inter (left right : CharSet)
  | compl (set : CharSet)
  | variants (set : CharSet)
  deriving DecidableEq, Repr, Inhabited

namespace CharSet

/-- Whether `c` is a member. -/
def contains : CharSet → Char → Bool
  | table ranges, c => ranges.contains c.toNat
  | union left right, c => left.contains c || right.contains c
  | inter left right, c => left.contains c && right.contains c
  | compl set, c => !set.contains c
  | variants set, c => (CaseFold.variants c).any set.contains

/-- The members as one table. -/
def ranges : CharSet → Ranges
  | table ranges => ranges
  | union left right => left.ranges.union right.ranges
  | inter left right => left.ranges.inter right.ranges
  | compl set => set.ranges.compl
  | variants set => CaseFold.widen set.ranges

/-- The set without members. -/
def none : CharSet := table []

/-- The set of all characters. -/
def all : CharSet := table [(0, 0x10FFFF)]

/-- The set with one member. -/
def single (c : Char) : CharSet := table [(c.toNat, c.toNat)]

/-- The characters from `lo` to `hi`, both included. -/
def interval (lo hi : Char) : CharSet := table [(lo.toNat, hi.toNat)]

/-- The members of the left set that the right one lacks. -/
def diff (left right : CharSet) : CharSet := inter left (compl right)

/-- The members of exactly one of two sets. -/
def symmDiff (left right : CharSet) : CharSet := union (diff left right) (diff right left)

/-- The union of several sets. -/
def unionOf : List CharSet → CharSet
  | [] => none
  | [set] => set
  | set :: rest => union set (unionOf rest)

/-- The characters of the seven-bit range. -/
def ascii : CharSet := table [(0, 0x7F)]

/-- All letters. -/
def letter : CharSet :=
  unionOf [table Category.lowercaseLetter, table Category.uppercaseLetter,
    table Category.otherLetter, table Category.modifierLetter, table Category.titlecaseLetter]

/-- All combining marks. -/
def mark : CharSet :=
  unionOf [table Category.nonspacingMark, table Category.spacingMark,
    table Category.enclosingMark]

/-- Decimal digits of any script. -/
def digit : CharSet := table Category.decimalNumber

/-- White space. -/
def space : CharSet := table Property.whiteSpace

/-- Characters of words: letters, marks, digits, connectors and joiners. -/
def word : CharSet :=
  unionOf [table Property.alphabetic, mark, digit, table Category.connectorPunctuation,
    table Property.joinControl]

/-- Every character but the line feed. -/
def notLineFeed : CharSet := compl (single '\n')

end CharSet

end FieldRules.Pattern
