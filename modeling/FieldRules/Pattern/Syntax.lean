import FieldRules.Pattern.CharSet

/-!
# Written patterns

The syntax of patterns as it is written: characters, classes, anchors,
groups, quantifiers and option settings.  `Expr.source` writes a pattern down.

A pattern that the library builds itself is built as an `Expr` and written
afterwards, so its text never has to be read again.
-/

namespace FieldRules.Pattern

/-! ## Classes -/

/-- The classes that a pattern names by one letter. -/
inductive Shorthand where
  | digit
  | space
  | word
  deriving DecidableEq, Repr

/-- The classes that are written between colons inside brackets. -/
inductive PosixClass where
  | alnum | alpha | ascii | blank | cntrl | digit | graph
  | lower | print | punct | space | upper | word | xdigit
  deriving DecidableEq, Repr

/-- A class that is asked for by the name of a character property. -/
structure NamedClass where
  name : String
  members : CharSet
  deriving DecidableEq, Repr

/-- All letters, under their usual short name. -/
def NamedClass.letter : NamedClass := ⟨"L", .letter⟩

/-- All decimal digits, under their usual short name. -/
def NamedClass.decimalNumber : NamedClass := ⟨"Nd", .digit⟩

/-- What stands between brackets, or one of the short classes. -/
inductive ClassExpr where
  | nothing
  | char (c : Char)
  | escapedByte (c : Char)
  | interval (lo hi : Char)
  | shorthand (kind : Shorthand) (negated : Bool)
  | named (cls : NamedClass) (negated : Bool)
  | posix (kind : PosixClass) (negated : Bool)
  | union (left right : ClassExpr)
  | inter (left right : ClassExpr)
  | diff (left right : ClassExpr)
  | symmDiff (left right : ClassExpr)
  | bracket (negated : Bool) (body : ClassExpr)
  deriving DecidableEq, Repr, Inhabited

/-! ## Patterns -/

/-- Conditions on a place in the text, as they are written. -/
inductive Anchor where
  | lineStart
  | lineEnd
  | textStart
  | textEnd
  | wordBoundary
  | notWordBoundary
  | wordStart
  | wordEnd
  | wordStartHalf
  | wordEndHalf
  deriving DecidableEq, Repr

/-- How many copies of a pattern are wanted. -/
inductive Quantifier where
  | optional
  | many
  | some
  | exactly (n : Nat)
  | atLeast (n : Nat)
  | between (lo hi : Nat)
  deriving DecidableEq, Repr

/-- The least and greatest number of copies. -/
def Quantifier.bounds : Quantifier → Nat × Option Nat
  | optional => (0, Option.some 1)
  | many => (0, none)
  | some => (1, none)
  | exactly n => (n, Option.some n)
  | atLeast n => (n, none)
  | between lo hi => (lo, Option.some hi)

/-- The options that can be switched inside a pattern. -/
inductive PatternOption where
  | ignoreCase
  | multiLine
  | dotAll
  | swapGreed
  | unicode
  | crlf
  | verbose
  deriving DecidableEq, Repr

/-- Switches of options, in the order in which they are written. -/
abbrev OptionChanges := List (PatternOption × Bool)

/-- A pattern as it is written.  A reluctant repetition prefers few copies. -/
inductive Expr where
  | empty
  | char (c : Char)
  | escapedByte (c : Char)
  | dot
  | cls (cls : ClassExpr)
  | anchor (anchor : Anchor)
  | seq (first second : Expr)
  | alt (left right : Expr)
  | rep (body : Expr) (quantifier : Quantifier) (reluctant : Bool := false)
  | capture (body : Expr)
  | group (changes : OptionChanges) (body : Expr)
  | change (changes : OptionChanges)
  deriving DecidableEq, Repr, Inhabited

/-! ## Writing -/

/-- The characters that stand for themselves only behind a backslash. -/
def isMeta (c : Char) : Bool :=
  c ∈ ['\\', '.', '+', '*', '?', '(', ')', '|', '[', ']', '\x7b', '\x7d', '^', '$', '#', '&',
    '-', '~']

/-- The text of a character that stands for itself. -/
def escapeChar (c : Char) : List Char :=
  if isMeta c then ['\\', c] else [c]

/-- The text of a word whose characters all stand for themselves. -/
def escape (word : List Char) : List Char :=
  word.flatMap escapeChar

/-- A text between braces. -/
def braced (inner : List Char) : List Char :=
  '\x7b' :: inner ++ ['\x7d']

/-- The decimal digits of a number. -/
def decimal (n : Nat) : List Char :=
  (toString n).toList

def Shorthand.letter : Shorthand → Bool → Char
  | digit, false => 'd'
  | digit, true => 'D'
  | space, false => 's'
  | space, true => 'S'
  | word, false => 'w'
  | word, true => 'W'

def PosixClass.name : PosixClass → String
  | alnum => "alnum"
  | alpha => "alpha"
  | ascii => "ascii"
  | blank => "blank"
  | cntrl => "cntrl"
  | digit => "digit"
  | graph => "graph"
  | lower => "lower"
  | print => "print"
  | punct => "punct"
  | space => "space"
  | upper => "upper"
  | word => "word"
  | xdigit => "xdigit"

def NamedClass.source (cls : NamedClass) (negated : Bool) : List Char :=
  ['\\', if negated then 'P' else 'p'] ++ braced cls.name.toList

/-- The text of a class. -/
def ClassExpr.source : ClassExpr → List Char
  | nothing => []
  | char c => [c]
  | escapedByte c => [c]
  | interval lo hi => [lo, '-', hi]
  | shorthand kind negated => ['\\', kind.letter negated]
  | named cls negated => cls.source negated
  | posix kind negated =>
    ['[', ':'] ++ (if negated then ['^'] else []) ++ kind.name.toList ++ [':', ']']
  | union left right => left.source ++ right.source
  | inter left right => left.source ++ ['&', '&'] ++ right.source
  | diff left right => left.source ++ ['-', '-'] ++ right.source
  | symmDiff left right => left.source ++ ['~', '~'] ++ right.source
  | bracket negated body =>
    ['['] ++ (if negated then ['^'] else []) ++ body.source ++ [']']

def Anchor.source : Anchor → List Char
  | lineStart => ['^']
  | lineEnd => ['$']
  | textStart => ['\\', 'A']
  | textEnd => ['\\', 'z']
  | wordBoundary => ['\\', 'b']
  | notWordBoundary => ['\\', 'B']
  | wordStart => ['\\', '<']
  | wordEnd => ['\\', '>']
  | wordStartHalf => ['\\', 'b'] ++ braced "start-half".toList
  | wordEndHalf => ['\\', 'b'] ++ braced "end-half".toList

def Quantifier.source : Quantifier → List Char
  | optional => ['?']
  | many => ['*']
  | some => ['+']
  | exactly n => braced (decimal n)
  | atLeast n => braced (decimal n ++ [','])
  | between lo hi => braced (decimal lo ++ [','] ++ decimal hi)

def PatternOption.letter : PatternOption → Char
  | ignoreCase => 'i'
  | multiLine => 'm'
  | dotAll => 's'
  | swapGreed => 'U'
  | unicode => 'u'
  | crlf => 'R'
  | verbose => 'x'

/-- The letters of the options switched on, then those switched off. -/
def changesSource (changes : OptionChanges) : List Char :=
  let lettersOf (on : Bool) := (changes.filter (·.2 == on)).map (·.1.letter)
  let off := lettersOf false
  lettersOf true ++ (if off.isEmpty then [] else '-' :: off)

/-- The text of a pattern. -/
def Expr.source : Expr → List Char
  | empty => []
  | char c => escapeChar c
  | escapedByte c => escapeChar c
  | dot => ['.']
  | cls c => c.source
  | anchor a => a.source
  | seq first second => first.source ++ second.source
  | alt left right => left.source ++ ['|'] ++ right.source
  | rep body quantifier reluctant =>
    body.source ++ quantifier.source ++ (if reluctant then ['?'] else [])
  | capture body => ['('] ++ body.source ++ [')']
  | group changes body => ['(', '?'] ++ changesSource changes ++ [':'] ++ body.source ++ [')']
  | change changes => ['(', '?'] ++ changesSource changes ++ [')']

/-! ## Building -/

/-- Several patterns one after the other. -/
def Expr.seqOf : List Expr → Expr
  | [] => .empty
  | [e] => e
  | e :: rest => .seq e (seqOf rest)

/-- A choice between several patterns. -/
def Expr.altOf : List Expr → Expr
  | [] => .empty
  | [e] => e
  | e :: rest => .alt e (altOf rest)

/-- A pattern for the whole text. -/
def Expr.whole (body : Expr) : Expr :=
  .seq (.anchor .lineStart) (.seq body (.anchor .lineEnd))

/-- The characters of a word, each standing for itself. -/
def Expr.word (cs : List Char) : Expr :=
  seqOf (cs.map .char)

/-- A bracketed class with several items. -/
def Expr.oneOf (items : List ClassExpr) : Expr :=
  .cls (.bracket false (items.foldr .union .nothing))

/-- The negation of a bracketed class with several items. -/
def Expr.noneOf (items : List ClassExpr) : Expr :=
  .cls (.bracket true (items.foldr .union .nothing))

/-- A choice between several patterns, in a group that captures. -/
def Expr.choice (alternatives : List Expr) : Expr :=
  .capture (altOf alternatives)

/-- A choice between several patterns, in a group that does not capture. -/
def Expr.plainChoice (alternatives : List Expr) : Expr :=
  .group [] (altOf alternatives)

/-- A decimal digit of any script. -/
def Expr.digit : Expr := .cls (.shorthand .digit false)

end FieldRules.Pattern
