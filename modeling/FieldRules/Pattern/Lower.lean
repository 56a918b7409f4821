import FieldRules.Pattern.Core
import FieldRules.Pattern.Syntax

/-!
# From written patterns to core patterns

`Expr.lower` gives a written pattern its meaning as a core pattern.  Options
apply from where they are switched to the end of the group around them, across
alternatives, so they are threaded from left to right and restored after each
group.

When case is ignored, a class is widened by the case variants of its members
before it is negated, and so are both sides of a set operation.  Patterns work
on characters; a class written without Unicode support must not reach beyond
the seven-bit range, and a pattern that does so has no meaning.
-/

namespace FieldRules.Pattern

/-- The options in force at a place of a pattern. -/
structure Options where
  ignoreCase : Bool := true
  multiLine : Bool := false
  dotAll : Bool := false
  swapGreed : Bool := false
  unicode : Bool := true
  crlf : Bool := false
  deriving DecidableEq, Repr

/-- The options after one switch. -/
def Options.set (options : Options) : PatternOption × Bool → Options
  | (.ignoreCase, on) => { options with ignoreCase := on }
  | (.multiLine, on) => { options with multiLine := on }
  | (.dotAll, on) => { options with dotAll := on }
  | (.unicode, on) => { options with unicode := on }
  | (.crlf, on) => { options with crlf := on }
  | (.swapGreed, on) => { options with swapGreed := on }
  | (.verbose, _) => options

/-- The options after several switches. -/
def Options.apply (options : Options) (changes : OptionChanges) : Options :=
  changes.foldl Options.set options

/-- The members of the classes between colons. -/
def PosixClass.members : PosixClass → CharSet
  | alnum => .table [(0x30, 0x39), (0x41, 0x5A), (0x61, 0x7A)]
  | alpha => .table [(0x41, 0x5A), (0x61, 0x7A)]
  | ascii => .ascii
  | blank => .table [(0x09, 0x09), (0x20, 0x20)]
  | cntrl => .table [(0x00, 0x1F), (0x7F, 0x7F)]
  | digit => .table [(0x30, 0x39)]
  | graph => .table [(0x21, 0x7E)]
  | lower => .table [(0x61, 0x7A)]
  | print => .table [(0x20, 0x7E)]
  | punct => .table [(0x21, 0x2F), (0x3A, 0x40), (0x5B, 0x60), (0x7B, 0x7E)]
  | space => .table [(0x09, 0x0D), (0x20, 0x20)]
  | upper => .table [(0x41, 0x5A)]
  | word => .table [(0x30, 0x39), (0x41, 0x5A), (0x5F, 0x5F), (0x61, 0x7A)]
  | xdigit => .table [(0x30, 0x39), (0x41, 0x46), (0x61, 0x66)]

/-- The members of the short classes. -/
def Shorthand.members (unicode : Bool) : Shorthand → CharSet
  | digit => if unicode then .digit else PosixClass.digit.members
  | space => if unicode then .space else PosixClass.space.members
  | word => if unicode then .word else PosixClass.word.members

/-- The characters of words. -/
def Options.wordChars (options : Options) : CharSet :=
  Shorthand.word.members options.unicode

/-- The set widened by the case variants of its members, where case is ignored. -/
def Options.widen (options : Options) (set : CharSet) : CharSet :=
  if options.ignoreCase then
    if options.unicode then .variants set else .union set (.inter (.variants set) .ascii)
  else
    set

/-- The set, or all that it lacks. -/
def negateIf (negated : Bool) (set : CharSet) : CharSet :=
  if negated then .compl set else set

/-- The set that a class stands for.  Without Unicode support it has to keep to
the seven-bit range, which no negated class does. -/
def ClassExpr.members (options : Options) : ClassExpr → Option CharSet
  | nothing => some .none
  | char c | escapedByte c =>
    if options.unicode || c.toNat < 0x80 then some (.single c) else none
  | interval lo hi =>
    if options.unicode || hi.toNat < 0x80 then some (.interval lo hi) else none
  | shorthand kind negated =>
    if options.unicode || !negated then some (negateIf negated (kind.members options.unicode))
    else none
  | named cls negated =>
    if options.unicode then some (negateIf negated (options.widen cls.members)) else none
  | posix kind negated =>
    if options.unicode || !negated then some (negateIf negated (options.widen kind.members))
    else none
  | union left right => do return .union (← left.members options) (← right.members options)
  | inter left right => do
    return .inter (options.widen (← left.members options))
      (options.widen (← right.members options))
  | diff left right => do
    return .diff (options.widen (← left.members options))
      (options.widen (← right.members options))
  | symmDiff left right => do
    return .symmDiff (options.widen (← left.members options))
      (options.widen (← right.members options))
  | bracket negated body => do
    let members := options.widen (← body.members options)
    if options.unicode || !negated then return negateIf negated members else none

/-- The condition that an anchor stands for. -/
def Anchor.look (options : Options) : Anchor → Look
  | lineStart =>
    if options.multiLine then
      if options.crlf then .crlfLineStart else .lineStart
    else
      .textStart
  | lineEnd =>
    if options.multiLine then
      if options.crlf then .crlfLineEnd else .lineEnd
    else
      .textEnd
  | textStart => .textStart
  | textEnd => .textEnd
  | wordBoundary => .word .boundary options.wordChars
  | notWordBoundary => .word .inside options.wordChars
  | wordStart => .word .start options.wordChars
  | wordEnd => .word .stop options.wordChars
  | wordStartHalf => .word .startHalf options.wordChars
  | wordEndHalf => .word .stopHalf options.wordChars

/-- The characters that the dot stands for. -/
def Options.dot (options : Options) : CharSet :=
  if options.dotAll then .all
  else if options.crlf then .compl (.table [(0x0A, 0x0A), (0x0D, 0x0D)])
  else .notLineFeed

/-- The characters that one which stands for itself stands for. -/
def Options.char (options : Options) (c : Char) : CharSet :=
  if options.unicode || c.toNat < 0x80 then options.widen (.single c) else .single c

/-- The core pattern of a written pattern, and the options in force behind it. -/
def Expr.lower (options : Options) : Expr → Option (Re × Options)
  | empty => some (.empty, options)
  | char c => some (.set (options.char c), options)
  | escapedByte c =>
    if options.unicode || c.toNat < 0x80 then some (.set (options.char c), options) else none
  | dot => if options.unicode then some (.set options.dot, options) else none
  | cls c => do return (.set (← c.members options), options)
  | anchor a => some (.look (a.look options), options)
  | seq first second => do
    let (a, options) ← first.lower options
    let (b, options) ← second.lower options
    return (.seq a b, options)
  | alt left right => do
    let (a, options) ← left.lower options
    let (b, options) ← right.lower options
    return (.alt a b, options)
  | rep body quantifier _ => do
    let (r, options) ← body.lower options
    return (.rep quantifier.bounds.1 quantifier.bounds.2 r, options)
  | capture body => do
    let (r, _) ← body.lower options
    return (r, options)
  | group changes body => do
    let (r, _) ← body.lower (options.apply changes)
    return (r, options)
  | change changes => some (.empty, options.apply changes)

end FieldRules.Pattern
