import FieldRules.Pattern.Lower

/-!
# Simplified patterns

A shape is a pattern with its options applied and with what makes no difference
left out: groups that capture nothing, sequences inside sequences, choices
inside choices, and repetitions that change nothing.  Neighbouring characters
are joined to words, a choice between single characters becomes a class, and
what all branches of a choice begin with is put in front of it.

* `Shape.append`, `Shape.choiceOf` and `Shape.repOf` build simplified shapes from
  simplified parts.
* `Expr.shape` simplifies a written pattern.

Unlike a core pattern, a shape tells captures apart and keeps the preference of
a repetition and the kind of a class, since branches begin alike only if they
agree in all of that.
-/

namespace FieldRules.Pattern

open Unicode

/-- A simplified pattern. -/
inductive Shape where
  | empty
  | word (chars : List Char)
  | cls (unicode : Bool) (members : Ranges)
  | look (look : Look)
  | rep (lo : Nat) (hi : Option Nat) (reluctant : Bool) (body : Shape)
  | capture (body : Shape)
  | concat (parts : List Shape)
  | choice (branches : List Shape)
  deriving Repr, Inhabited

namespace Shape

/-! ## Measures -/

mutual

/-- The number of nodes. -/
def nodes : Shape → Nat
  | empty | word _ | cls _ _ | look _ => 1
  | rep _ _ _ body => body.nodes + 1
  | capture body => body.nodes + 1
  | concat parts => nodesOf parts + 1
  | choice branches => nodesOf branches + 1

def nodesOf : List Shape → Nat
  | [] => 0
  | s :: rest => s.nodes + nodesOf rest

end

/-- The length of the encoding of a character. -/
def encodedLength (code : Nat) : Nat :=
  if code < 0x80 then 1 else if code < 0x800 then 2 else if code < 0x10000 then 3 else 4

mutual

/-- The length of the shortest encoded word that is accepted, unless an empty
class stands in the way. -/
def minLength : Shape → Option Nat
  | empty => some 0
  | word chars => some (chars.foldl (fun total c => total + encodedLength c.toNat) 0)
  | cls _ members => members.head?.map fun (lo, _) => encodedLength lo
  | look _ => some 0
  | rep lo _ _ body => body.minLength.map (· * lo)
  | capture body => body.minLength
  | concat parts => sumOfLengths parts
  | choice branches => leastOfLengths branches

def sumOfLengths : List Shape → Option Nat
  | [] => some 0
  | s :: rest => do return (← s.minLength) + (← sumOfLengths rest)

def leastOfLengths : List Shape → Option Nat
  | [] => none
  | [s] => s.minLength
  | s :: rest => do return min (← s.minLength) (← leastOfLengths rest)

end

/-- Whether no empty word is accepted, as far as lengths can tell. -/
def isNonempty (s : Shape) : Bool := s.minLength.any (0 < ·)

mutual

/-- Whether no word but the empty one is accepted. -/
def isZeroWidth : Shape → Bool
  | empty => true
  | word chars => chars.isEmpty
  | cls _ _ => false
  | look _ => true
  | rep _ hi _ body => hi.isSome && body.isZeroWidth
  | capture body => body.isZeroWidth
  | concat parts => areZeroWidth parts
  | choice branches => areZeroWidth branches

def areZeroWidth : List Shape → Bool
  | [] => true
  | s :: rest => s.isZeroWidth && areZeroWidth rest

end

/-! ## Equality -/

mutual

/-- Whether two shapes are equal.  Two captures never are. -/
def same : Shape → Shape → Bool
  | empty, empty => true
  | word a, word b => a == b
  | cls u a, cls v b => u == v && a == b
  | look a, look b => a == b
  | rep lo hi reluctant a, rep lo' hi' reluctant' b =>
    lo == lo' && hi == hi' && reluctant == reluctant' && a.same b
  | concat as, concat bs => allSame as bs
  | choice as, choice bs => allSame as bs
  | _, _ => false

def allSame : List Shape → List Shape → Bool
  | [], [] => true
  | a :: as, b :: bs => a.same b && allSame as bs
  | _, _ => false

end

/-- How many parts two sequences have in common from the start. -/
def commonParts : List Shape → List Shape → Nat
  | a :: as, b :: bs => if a.same b then commonParts as bs + 1 else 0
  | _, _ => 0

/-! ## Building -/

/-- The shape of a class. -/
def classOf (unicode : Bool) (members : Ranges) : Shape :=
  match members with
  | [] => cls false []
  | [(lo, hi)] => if lo = hi then word [Char.ofNat lo] else cls unicode members
  | _ => cls unicode members

/-- The parts of a sequence, or the shape itself. -/
def parts : Shape → List Shape
  | empty => []
  | concat parts => parts
  | s => [s]

/-- The branches of a choice, or the shape itself. -/
def branches : Shape → List Shape
  | choice branches => branches
  | s => [s]

/-- The sequence with the given parts. -/
def ofParts : List Shape → Shape
  | [] => empty
  | [s] => s
  | parts => concat parts

/-- Parts with one more in front.  Two words make one. -/
def attach : Shape → List Shape → List Shape
  | word chars, word more :: rest => word (chars ++ more) :: rest
  | s, rest => s :: rest

/-- One shape after the other. -/
def append (first second : Shape) : Shape :=
  ofParts (first.parts.foldr attach second.parts)

/-- A repetition.  Copies that consume nothing are not worth repeating. -/
def repOf (lo : Nat) (hi : Option Nat) (reluctant : Bool) (body : Shape) : Shape :=
  let (lo, hi) :=
    if body.isZeroWidth then (min lo 1, some (min (hi.getD 1) 1)) else (lo, hi)
  match lo, hi with
  | 0, some 0 => empty
  | 1, some 1 => body
  | lo, hi => rep lo hi reluctant body

/-- The table of a shape that is a single character. -/
def singleton? : Shape → Option Ranges
  | word [c] => some [(c.toNat, c.toNat)]
  | _ => none

/-- The table of a shape that is a class. -/
def members? : Shape → Option Ranges
  | cls _ members => some members
  | _ => none

/-- The parts of a shape that is a sequence. -/
def parts? : Shape → Option (List Shape)
  | concat parts => some parts
  | _ => none

/-- The union of several tables. -/
def unionOf (tables : List Ranges) : Ranges :=
  tables.foldl Ranges.union []

/-- How many parts all sequences have in common from the start. -/
def commonStart : List (List Shape) → Nat
  | [] => 0
  | parts :: rest => rest.foldl (fun n others => min n (commonParts parts others)) parts.length

/-- A choice between several shapes.  A choice between classes is a class, and
so is one between characters. -/
def choose : (fuel : Nat) → List Shape → Shape
  | 0, shapes => choice shapes
  | fuel + 1, shapes =>
    match shapes.flatMap branches with
    | [] => cls false []
    | [s] => s
    | flat =>
      match (flat.mapM singleton?).or (flat.mapM members?) with
      | some tables => classOf true (unionOf tables)
      | none =>
        match flat.mapM parts? with
        | none => choice flat
        | some sequences =>
          match commonStart sequences, sequences with
          | n + 1, first :: _ =>
            let rests := sequences.map fun parts => ofParts (parts.drop (n + 1))
            append (ofParts (first.take (n + 1))) (choose fuel rests)
          | _, _ => choice flat

/-- A choice between several shapes. -/
def choiceOf (shapes : List Shape) : Shape :=
  choose (nodesOf shapes + 1) shapes

end Shape

/-! ## Written patterns -/

/-- The simplified branches of a written pattern, and the options in force
behind it.  What the options do not admit counts as an empty class. -/
def Expr.shapes (options : Options) : Expr → List Shape × Options
  | empty => ([.empty], options)
  | char c | escapedByte c => ([.classOf options.unicode (options.char c).ranges], options)
  | dot => ([.classOf options.unicode options.dot.ranges], options)
  | cls c =>
    ([.classOf options.unicode ((c.members options).getD .none).ranges], options)
  | anchor a => ([.look (a.look options)], options)
  | seq first second =>
    let (a, options) := first.shapes options
    let (b, options) := second.shapes options
    ([(Shape.choiceOf a).append (.choiceOf b)], options)
  | alt left right =>
    let (a, options) := left.shapes options
    let (b, options) := right.shapes options
    (a ++ b, options)
  | rep body quantifier reluctant =>
    let (a, options) := body.shapes options
    let (lo, hi) := quantifier.bounds
    ([.repOf lo hi (reluctant != options.swapGreed) (.choiceOf a)], options)
  | capture body =>
    let (a, _) := body.shapes options
    ([.capture (.choiceOf a)], options)
  | group changes body =>
    let (a, _) := body.shapes (options.apply changes)
    ([.choiceOf a], options)
  | change changes => ([.empty], options.apply changes)

/-- The simplified form of a written pattern. -/
def Expr.shape (options : Options) (e : Expr) : Shape :=
  .choiceOf (e.shapes options).1

end FieldRules.Pattern
