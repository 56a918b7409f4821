import Std.Data.HashMap
import FieldRules.Pattern.Shape
import FieldRules.Pattern.WordTrie
import FieldRules.Unicode.Utf8

/-!
# Automata

A pattern is read by two automata over the bytes of a text, one forwards and one
backwards.  `Shape.automaton` builds one of them as far as its size goes: a state
takes 32 bytes, each way on from a choice 4 and each interval of a class 8.

* `Growth` counts what has been built; it fails beyond `sizeLimit`.
* `Growth.classForward` and `Growth.classBackward` build a class.  Encodings that
  end alike share their states as long as a table of limited size remembers
  them, so what a class needs depends on the number of its first state.
* `Shape.build` builds a shape, copy after copy.
-/

namespace FieldRules.Pattern

open Unicode

/-- The greatest size of an automaton: ten mebibytes. -/
def sizeLimit : Nat := 10485760

/-- What has been built of an automaton: the number of states, and the bytes
beside them. -/
structure Growth where
  states : Nat := 0
  extra : Nat := 0
  deriving DecidableEq, Repr

namespace Growth

/-- The size in bytes. -/
def size (g : Growth) : Nat := 32 * g.states + g.extra

/-- The automaton with more states and bytes, unless it becomes too large. -/
def add (g : Growth) (states extra : Nat) : Option Growth :=
  let grown : Growth := ⟨g.states + states, g.extra + extra⟩
  if grown.size ≤ sizeLimit then some grown else none

/-! ## Classes -/

/-- The first value of a running hash. -/
def hashStart : UInt64 := 14695981039346656037

/-- The hash with one more value. -/
def hashWith (hash : UInt64) (value : Nat) : UInt64 :=
  (hash ^^^ value.toUInt64) * 1099511628211

/-- A state of a class and the interval of bytes that leads to it. -/
structure Edge where
  lo : Nat
  hi : Nat
  next : Nat
  deriving DecidableEq, Repr

/-- The hash of some edges. -/
def hashEdges (edges : List Edge) : UInt64 :=
  edges.foldl (fun hash e => hashWith (hashWith (hashWith hash e.lo) e.hi) e.next) hashStart

/-- The hash of one edge, its state first. -/
def hashEdge (e : Edge) : UInt64 :=
  hashWith (hashWith (hashWith hashStart e.next) e.lo) e.hi

/-- A class that is being built: the automaton so far, and the states that are
remembered, each in the slot of its hash. -/
structure ClassGrowth (Key : Type) where
  growth : Growth
  known : Std.HashMap Nat (Key × Nat) := {}

/-- The state of a key: one that is remembered, or a new one. -/
def stateOf {Key : Type} [DecidableEq Key] (key : Key) (slot extra : Nat) (c : ClassGrowth Key) :
    Option (Nat × ClassGrowth Key) :=
  match c.known[slot]? with
  | some (found, state) => if found = key then some (state, c) else fresh
  | none => fresh
where
  fresh := (c.growth.add 1 extra).map fun growth =>
    (c.growth.states, ⟨growth, c.known.insert slot (key, c.growth.states)⟩)

/-- The states of one form of encodings read backwards, from the leading byte at
the end to the last one. -/
def formBackward (next : Nat) : Utf8.Form → ClassGrowth Edge → Option (ClassGrowth Edge)
  | [], c => some c
  | (lo, hi) :: rest, c => do
    let edge : Edge := ⟨lo, hi, next⟩
    let (state, c) ← stateOf edge ((hashEdge edge).toNat % 1000) 0 c
    formBackward state rest c

/-- The forms one after the other, each with a way from the choice between them. -/
def formsBackward (finish : Nat) : List Utf8.Form → ClassGrowth Edge → Option (ClassGrowth Edge)
  | [], c => some c
  | form :: rest, c => do
    let c ← formBackward finish form c
    let growth ← c.growth.add 0 4
    formsBackward finish rest { c with growth }

/-- A class read backwards: a choice between the forms of its encodings, which
share the states that lead to the same end. -/
def classBackward (forms : List Utf8.Form) (g : Growth) : Option Growth := do
  let finish := g.states + 1
  let c ← formsBackward finish forms ⟨← g.add 2 0, {}⟩
  return c.growth

/-- The forms by their first place, neighbours with the same one together. -/
def byFirstPlace : List Utf8.Form → List ((Nat × Nat) × List Utf8.Form)
  | [] => []
  | [] :: forms => byFirstPlace forms
  | (place :: rest) :: forms =>
    match byFirstPlace forms with
    | (p, rests) :: more =>
      if p = place then (p, rest :: rests) :: more else (place, [rest]) :: (p, rests) :: more
    | [] => [(place, [rest])]

mutual

/-- The state that reads some forms of at most `places` places. -/
def formsForward (finish : Nat) : (places : Nat) → List Utf8.Form → ClassGrowth (List Edge) →
    Option (Nat × ClassGrowth (List Edge))
  | 0, _, c => some (finish, c)
  | places + 1, forms, c => do
    if forms.all (·.isEmpty) then return (finish, c)
    let (edges, c) ← edgesForward finish places (byFirstPlace forms) c
    stateOf edges ((hashEdges edges).toNat % 10000) (8 * edges.length) c

/-- The edges for each first place. -/
def edgesForward (finish places : Nat) : List ((Nat × Nat) × List Utf8.Form) →
    ClassGrowth (List Edge) → Option (List Edge × ClassGrowth (List Edge))
  | [], c => some ([], c)
  | ((lo, hi), rests) :: more, c => do
    let (next, c) ← formsForward finish places rests c
    let (edges, c) ← edgesForward finish places more c
    return (⟨lo, hi, next⟩ :: edges, c)

end

/-- A class read forwards. -/
def classForward (forms : List Utf8.Form) (g : Growth) : Option Growth := do
  let (_, c) ← formsForward g.states 4 forms ⟨← g.add 1 0, {}⟩
  return c.growth

/-- A class.  One within the seven-bit range is a single state. -/
def cls (backward : Bool) (members : Ranges) (g : Growth) : Option Growth :=
  if members.all fun (_, hi) => hi < 0x80 then g.add 2 (8 * members.length)
  else if backward then g.classBackward (Utf8.forms members)
  else g.classForward (Utf8.forms members)

/-! ## Words and copies -/

/-- The bytes of a word. -/
def wordBytes (chars : List Char) : List Nat :=
  chars.flatMap fun c => ((Utf8.formsOf c.toNat c.toNat).flatten).map (·.1)

/-- A choice between words. -/
def words (backward : Bool) (words : List (List Char)) (g : Growth) : Option Growth :=
  let trie := WordTrie.ofWords (words.map fun chars =>
    if backward then (wordBytes chars).reverse else wordBytes chars)
  g.add (trie.states + 1) trie.links

/-- `n` copies, one after the other. -/
def copies (copy : Growth → Option Growth) : Nat → Growth → Option Growth
  | 0, g => some g
  | n + 1, g =>
    match copy g with
    | none => none
    | some g => copies copy n g

/-- `n` copies, each of which may be left out. -/
def optionalCopies (copy : Growth → Option Growth) (n : Nat) (g : Growth) : Option Growth :=
  copies (fun g => do copy (← g.add 1 8)) n g

end Growth

/-! ## Shapes -/

/-- The characters of a shape that is a word. -/
def Shape.word? : Shape → Option (List Char)
  | word chars => some chars
  | _ => none

mutual

/-- The automaton with what a shape adds to it.  Only the one that reads
forwards records captures. -/
def Shape.build (backward : Bool) : Shape → Growth → Option Growth
  | empty, g => g.add 1 0
  | word chars, g => g.add (Growth.wordBytes chars).length 0
  | cls _ members, g => g.cls backward members
  | look _, g => g.add 1 0
  | capture body, g =>
    if backward then body.build backward g
    else do (← body.build backward (← g.add 1 0)).add 1 0
  | rep 0 (some 1) _ body, g => do (← body.build backward (← g.add 1 8)).add 1 0
  | rep 0 none _ body, g =>
    if body.isNonempty then do body.build backward (← g.add 1 8)
    else do (← body.build backward g).add 3 16
  | rep (n + 1) none _ body, g => do (← Growth.copies (body.build backward) (n + 1) g).add 1 8
  | rep lo (some hi) _ body, g => do
    let g ← if lo = 0 then g.add 1 0 else Growth.copies (body.build backward) lo g
    if lo = hi then return g
    else Growth.optionalCopies (body.build backward) (hi - lo) (← g.add 1 0)
  | concat parts, g =>
    if backward then Shape.buildBackward parts g else Shape.buildForward parts g
  | choice branches, g =>
    match branches.mapM Shape.word? with
    | some words => g.words backward words
    | none => Shape.buildBranches backward 0 branches g

/-- The parts of a sequence from the first to the last. -/
def Shape.buildForward : List Shape → Growth → Option Growth
  | [], g => some g
  | s :: rest, g => do Shape.buildForward rest (← s.build false g)

/-- The parts of a sequence from the last to the first. -/
def Shape.buildBackward : List Shape → Growth → Option Growth
  | [], g => some g
  | s :: rest, g => do s.build true (← Shape.buildBackward rest g)

/-- The branches of a choice, of which `done` are there.  The choice itself comes
with the second one. -/
def Shape.buildBranches (backward : Bool) : (done : Nat) → List Shape → Growth → Option Growth
  | _, [], g => some g
  | done, s :: rest, g => do
    let g ← s.build backward g
    let g ← match done with
      | 0 => some g
      | 1 => g.add 2 8
      | _ => g.add 0 4
    Shape.buildBranches backward (done + 1) rest g

end

mutual

/-- Whether every match starts at the start of the text, as far as the first
parts tell. -/
def Shape.startsText : Shape → Bool
  | look l => l == .textStart
  | rep lo _ _ body => 0 < lo && body.startsText
  | capture body => body.startsText
  | concat parts => Shape.anyStartsText parts
  | choice branches => Shape.allStartText branches
  | _ => false

def Shape.anyStartsText : List Shape → Bool
  | [] => false
  | s :: rest => s.startsText || (s.isZeroWidth && Shape.anyStartsText rest)

def Shape.allStartText : List Shape → Bool
  | [] => true
  | s :: rest => s.startsText && Shape.allStartText rest

end

mutual

/-- Whether every match ends at the end of the text, as far as the last parts
tell. -/
def Shape.endsText : Shape → Bool
  | look l => l == .textEnd
  | rep lo _ _ body => 0 < lo && body.endsText
  | capture body => body.endsText
  | concat parts => Shape.anyEndsText parts
  | choice branches => Shape.allEndText branches
  | _ => false

def Shape.anyEndsText : List Shape → Bool
  | [] => false
  | s :: rest => (Shape.areZeroWidth rest && s.endsText) || Shape.anyEndsText rest

def Shape.allEndText : List Shape → Bool
  | [] => true
  | s :: rest => s.endsText && Shape.allEndText rest

end

/-- The automaton of a shape.  Where a match may begin anywhere, a loop in front
passes over any bytes; the forward automaton also records where the match lies. -/
def Shape.automaton (backward : Bool) (s : Shape) : Option Growth := do
  let anchored := if backward then s.endsText else s.startsText
  let g ← if anchored then Growth.add {} 1 0 else Growth.add {} 3 16
  if backward then (← s.build true g).add 1 0
  else (← s.build false (← g.add 1 0)).add 2 0

end FieldRules.Pattern
