import FieldRules.Pattern.Depth
import FieldRules.Pattern.Named
import FieldRules.Text.Blank
import FieldRules.Text.Digits
import FieldRules.Text.Split
import FieldRules.Unicode.Recent

/-!
# Reading patterns

`Expr.read?` reads a pattern that a user wrote.  It gives nothing for a text
that is not a pattern: an unclosed group or class, a quantifier with nothing to
repeat or with reversed bounds, look-around, back references, unknown escapes
or classes, a group name used twice, and nesting beyond `depthLimit`.

In verbose mode, which a pattern switches on for the rest of a group, blanks
and comments between the elements are skipped.

Every reader takes the text that is left and returns what is left behind the
element it read.
-/

namespace FieldRules.Pattern

open Text

/-! ## Layout -/

/-- The text behind the blanks and comments at its start. -/
def dropLayout : (inComment : Bool) → List Char → List Char
  | _, [] => []
  | true, c :: rest => dropLayout (c != '\n') rest
  | false, c :: rest =>
    if isBlank c then dropLayout false rest
    else if c = '#' then dropLayout true rest
    else c :: rest

/-- The text behind the layout at its start, where layout is skipped. -/
def skipLayout (verbose : Bool) (text : List Char) : List Char :=
  if verbose then dropLayout false text else text

/-! ## Numbers -/

/-- The digits at the start of the text. -/
def takeDigits (verbose : Bool) : (inComment : Bool) → List Char → List Char × List Char
  | _, [] => ([], [])
  | true, c :: rest => takeDigits verbose (c != '\n') rest
  | false, c :: rest =>
    if c.isDigit then
      let (digits, left) := takeDigits verbose false rest
      (c :: digits, left)
    else if verbose && isBlank c then takeDigits verbose false rest
    else if verbose && c = '#' then takeDigits verbose true rest
    else ([], c :: rest)

/-- The number at the start of the text, with the blanks around it. -/
def readCount (verbose : Bool) (text : List Char) : Option Nat × List Char :=
  let (digits, left) := takeDigits verbose false (text.dropWhile isBlank)
  let left := skipLayout verbose (left.dropWhile isBlank)
  if digits.isEmpty || digitsValue digits ≥ wordLimit then (none, left)
  else (some (digitsValue digits), left)

/-- The bounds between braces, behind the opening one. -/
def readBounds (verbose : Bool) (text : List Char) : Option (Quantifier × List Char) := do
  let (lo, left) := readCount verbose (skipLayout verbose text)
  let lo ← lo
  match left with
  | '\x7d' :: left => return (.exactly lo, left)
  | ',' :: left =>
    match skipLayout verbose left with
    | '\x7d' :: left => return (.atLeast lo, left)
    | left =>
      let (hi, left) := readCount verbose left
      let hi ← hi
      match left with
      | '\x7d' :: left => if lo ≤ hi then return (.between lo hi, left) else none
      | _ => none
  | _ => none

/-- Whether a mark that makes a quantifier reluctant comes next, and the text
behind it. -/
def takeReluctant : List Char → Bool × List Char
  | '?' :: left => (true, left)
  | left => (false, left)

/-! ## Escapes -/

/-- A single element of a pattern or of a class. -/
inductive Element where
  | char (c : Char)
  | escapedByte (c : Char)
  | cls (cls : ClassExpr)
  | anchor (anchor : Anchor)

/-- The text up to the closing brace, without layout. -/
def takeBraced (verbose : Bool) :
    (inComment : Bool) → List Char → Option (List Char × List Char)
  | _, [] => none
  | true, c :: rest => takeBraced verbose (c != '\n') rest
  | false, c :: rest =>
    if c = '\x7d' then some ([], rest)
    else if verbose && isBlank c then takeBraced verbose false rest
    else if verbose && c = '#' then takeBraced verbose true rest
    else (takeBraced verbose false rest).map fun (inner, left) => (c :: inner, left)

def isHexDigit (c : Char) : Bool :=
  c.isDigit || ('a' ≤ c && c ≤ 'f') || ('A' ≤ c && c ≤ 'F')

def hexDigitValue (c : Char) : Nat :=
  if c.isDigit then c.toNat - '0'.toNat
  else if 'a' ≤ c then c.toNat - 'a'.toNat + 10
  else c.toNat - 'A'.toNat + 10

/-- The character whose code is written in hexadecimal digits. -/
def charOfHex? (digits : List Char) : Option Char :=
  let code := digits.foldl (fun n c => 16 * n + hexDigitValue c) 0
  if !digits.isEmpty && digits.all isHexDigit && code.isValidChar then some (Char.ofNat code)
  else none

/-- A fixed number of hexadecimal digits. -/
def takeHexDigits (verbose : Bool) : Nat → List Char → Option (List Char × List Char)
  | 0, text => some ([], text)
  | _ + 1, [] => none
  | n + 1, c :: rest =>
    if isHexDigit c then
      (takeHexDigits verbose n (skipLayout verbose rest)).map fun (digits, left) =>
        (c :: digits, left)
    else
      none

/-- A character written by its code, behind the letter that says how many
digits there are. -/
def readHex (verbose : Bool) (letter : Char) (text : List Char) :
    Option (Element × List Char) := do
  match skipLayout verbose text with
  | '\x7b' :: rest =>
    let (digits, left) ← takeBraced verbose false rest
    return (.char (← charOfHex? digits), left)
  | rest =>
    let count := if letter = 'x' then 2 else if letter = 'u' then 4 else 8
    let (digits, left) ← takeHexDigits verbose count rest
    let c ← charOfHex? digits
    return (if letter = 'x' then .escapedByte c else .char c, left)

/-- A class asked for by a property of its members. -/
def classOfQuery (query : List Char) (negated : Bool) : Option ClassExpr :=
  let build (members : Option CharSet) (negated : Bool) :=
    members.map fun set => ClassExpr.named ⟨String.ofList query, set⟩ negated
  match splitAt? ['!', '='] query with
  | some (name, value) => build (classOfValue name value) (!negated)
  | none =>
    match (splitOnce (· = ':') query).or (splitOnce (· = '=') query) with
    | some (name, value) => build (classOfValue name value) negated
    | none => build (classOfName query) negated

/-- A class asked for by a property, behind its letter. -/
def readNamedClass (verbose negated : Bool) (text : List Char) :
    Option (Element × List Char) := do
  match skipLayout verbose text with
  | '\x7b' :: rest =>
    let (query, left) ← takeBraced verbose false rest
    return (.cls (← classOfQuery query negated), left)
  | c :: rest =>
    if c = '\\' then none
    else return (.cls (← classOfQuery [c] negated), skipLayout verbose rest)
  | [] => none

/-- Behind the letter of a word boundary, the kind of boundary between braces.
Braces that hold something else are left to the quantifiers. -/
def readBoundaryKind (verbose : Bool) (text : List Char) : Option (Anchor × List Char) := do
  let isNameChar (c : Char) := c.isAlpha || c = '-'
  match text with
  | '\x7b' :: rest =>
    match skipLayout verbose rest with
    | [] => none
    | c :: _ =>
      if !isNameChar c then
        return (.wordBoundary, text)
      else
        let (name, left) ← takeBraced verbose false rest
        match String.ofList name with
        | "start" => return (.wordStart, left)
        | "end" => return (.wordEnd, left)
        | "start-half" => return (.wordStartHalf, left)
        | "end-half" => return (.wordEndHalf, left)
        | _ => none
  | _ => return (.wordBoundary, text)

/-- Whether a backslash may stand before the character although it stands for
itself without one. -/
def mayBeEscaped (c : Char) : Bool :=
  c.toNat < 0x80 && !c.isAlphanum && !(c ∈ ['<', '>'])

/-- What a backslash introduces, behind the backslash. -/
def readEscape (verbose : Bool) : List Char → Option (Element × List Char)
  | [] => none
  | c :: rest =>
    match c with
    | 'x' | 'u' | 'U' => readHex verbose c rest
    | 'p' => readNamedClass verbose false rest
    | 'P' => readNamedClass verbose true rest
    | 'd' => some (.cls (.shorthand .digit false), rest)
    | 'D' => some (.cls (.shorthand .digit true), rest)
    | 's' => some (.cls (.shorthand .space false), rest)
    | 'S' => some (.cls (.shorthand .space true), rest)
    | 'w' => some (.cls (.shorthand .word false), rest)
    | 'W' => some (.cls (.shorthand .word true), rest)
    | 'a' => some (.char '\x07', rest)
    | 'f' => some (.char '\x0c', rest)
    | 't' => some (.char '\t', rest)
    | 'n' => some (.char '\n', rest)
    | 'r' => some (.char '\r', rest)
    | 'v' => some (.char '\x0b', rest)
    | 'A' => some (.anchor .textStart, rest)
    | 'z' => some (.anchor .textEnd, rest)
    | 'b' => (readBoundaryKind verbose rest).map fun (anchor, left) => (.anchor anchor, left)
    | 'B' => some (.anchor .notWordBoundary, rest)
    | '<' => some (.anchor .wordStart, rest)
    | '>' => some (.anchor .wordEnd, rest)
    | _ => if mayBeEscaped c then some (.char c, rest) else none

/-! ## Classes -/

/-- The operations between the operands of a class. -/
inductive SetOp where
  | inter
  | diff
  | symmDiff

def SetOp.combine : SetOp → ClassExpr → ClassExpr → ClassExpr
  | inter => .inter
  | diff => .diff
  | symmDiff => .symmDiff

def PosixClass.all : List PosixClass :=
  [alnum, alpha, ascii, blank, cntrl, digit, graph, lower, print, punct, space, upper, word,
    xdigit]

/-- A class between colons, behind the opening bracket. -/
def readPosix (text : List Char) : Option (ClassExpr × List Char) := do
  let rest ← dropLead? [':'] text
  let (negated, rest) := match rest with
    | '^' :: rest => (true, rest)
    | _ => (false, rest)
  let (name, rest) ← splitOnce (· = ':') rest
  let left ← dropLead? [']'] rest
  let kind ← PosixClass.all.find? (·.name.toList = name)
  return (.posix kind negated, left)

/-- One element of a class. -/
def readClassElement (verbose : Bool) : List Char → Option (Element × List Char)
  | [] => none
  | '\\' :: rest => readEscape verbose rest
  | c :: rest => some (.char c, rest)

/-- The character of an element that may bound an interval. -/
def Element.char? : Element → Option Char
  | char c => some c
  | escapedByte c => some c
  | _ => none

/-- An element as an item of a class. -/
def Element.item? : Element → Option ClassExpr
  | char c => some (.char c)
  | escapedByte c => some (.escapedByte c)
  | cls c => some c
  | anchor _ => none

/-- The first character behind blanks and at most one number sign. -/
def peekLayout : (inComment : Bool) → List Char → Option Char
  | _, [] => none
  | inComment, c :: rest =>
    if isBlank c then peekLayout inComment rest
    else if c = '#' && !inComment then peekLayout true rest
    else some c

/-- Whether a hyphen in front of the text joins the ends of an interval: not at
the end of a class, nor as the first half of an operation.  Where layout is
skipped, a number sign is looked past here, but not the comment behind it. -/
def joinsInterval (verbose : Bool) (text : List Char) : Bool :=
  let next := if verbose then (peekLayout false text).or text.head? else text.head?
  next != some ']' && next != some '-'

/-- An item of a class: an element, or two of them with a hyphen between. -/
def readClassItem (verbose : Bool) (text : List Char) : Option (ClassExpr × List Char) := do
  let (first, left) ← readClassElement verbose text
  match skipLayout verbose left with
  | [] => none
  | next :: rest =>
    if next = '-' && joinsInterval verbose rest then
      let (second, left) ← readClassElement verbose (skipLayout verbose rest)
      let lo ← first.char?
      let hi ← second.char?
      if lo ≤ hi then return (.interval lo hi, left) else none
    else
      return (← first.item?, next :: rest)

/-- The hyphens at the start of a class, and the number of them. -/
def takeHyphens (verbose : Bool) : (inComment : Bool) → List Char → List ClassExpr × List Char
  | _, [] => ([], [])
  | true, c :: rest => takeHyphens verbose (c != '\n') rest
  | false, c :: rest =>
    if c = '-' then
      let (items, left) := takeHyphens verbose false rest
      (.char '-' :: items, left)
    else if verbose && isBlank c then takeHyphens verbose false rest
    else if verbose && c = '#' then takeHyphens verbose true rest
    else ([], c :: rest)

/-- What an opening bracket starts: whether the class is negated, and the items
at its start that would mean something else later on. -/
def openClass (verbose : Bool) (text : List Char) : Bool × List ClassExpr × List Char :=
  let (negated, text) := match skipLayout verbose text with
    | '^' :: rest => (true, rest)
    | rest => (false, rest)
  let (hyphens, left) := takeHyphens verbose false text
  match hyphens, left with
  | [], ']' :: rest => (negated, [.char ']'], rest)
  | _, _ => (negated, hyphens, left)

/-- The items of an operand, in the order in which they were written. -/
def operand (items : List ClassExpr) : ClassExpr :=
  items.foldl (fun later item => .union item later) .nothing

/-- The operand with the operation before it, if there is one. -/
def joinOperand (before : Option (SetOp × ClassExpr)) (items : List ClassExpr) : ClassExpr :=
  match before with
  | none => operand items
  | some (op, left) => op.combine left (operand items)

/-- The rest of a class up to its closing bracket.  `before` holds the operands
so far and `items` the items of the present one, the last item first. -/
def readClassBody (verbose : Bool) : Nat → Option (SetOp × ClassExpr) → List ClassExpr →
    List Char → Option (ClassExpr × List Char)
  | 0, _, _, _ => none
  | fuel + 1, before, items, text => do
    let operation (op : SetOp) (left : List Char) :=
      readClassBody verbose fuel (some (op, joinOperand before items)) [] left
    match skipLayout verbose text with
    | [] => none
    | ']' :: left => return (joinOperand before items, left)
    | '&' :: '&' :: left => operation .inter left
    | '-' :: '-' :: left => operation .diff left
    | '~' :: '~' :: left => operation .symmDiff left
    | '[' :: left =>
      match readPosix left with
      | some (item, left) => readClassBody verbose fuel before (item :: items) left
      | none =>
        let (negated, start, left) := openClass verbose left
        let (body, left) ← readClassBody verbose fuel none start.reverse left
        readClassBody verbose fuel before (.bracket negated body :: items) left
    | text =>
      let (item, left) ← readClassItem verbose text
      readClassBody verbose fuel before (item :: items) left

/-- A class, behind its opening bracket. -/
def readClass (verbose : Bool) (text : List Char) : Option (ClassExpr × List Char) := do
  let (negated, start, left) := openClass verbose text
  let (body, left) ← readClassBody verbose (text.length + 1) none start.reverse left
  return (.bracket negated body, left)

/-! ## Groups -/

/-- What stands behind an opening parenthesis. -/
inductive GroupStart where
  | capture (name : Option (List Char))
  | group (changes : OptionChanges)
  | change (changes : OptionChanges)

/-- Whether the name of a group may start with a character.  Names follow a newer
version of Unicode than classes do. -/
def isNameStart (c : Char) : Bool :=
  c = '_' || Unicode.Property.alphabetic.contains c.toNat ||
    Unicode.Recent.alphabetic.contains c.toNat

/-- Whether the name of a group may go on with a character. -/
def isNameChar (c : Char) : Bool :=
  isNameStart c || c ∈ ['.', '[', ']'] || CharSet.number.contains c ||
    Unicode.Recent.number.contains c.toNat

/-- The name of a group, behind the opening angle bracket. -/
def readGroupName (text : List Char) : Option (List Char × List Char) := do
  let (name, left) ← splitOnce (· = '>') text
  match name with
  | [] => none
  | first :: rest => if isNameStart first && rest.all isNameChar then return (name, left) else none

def PatternOption.ofLetter? : Char → Option PatternOption
  | 'i' => some ignoreCase
  | 'm' => some multiLine
  | 's' => some dotAll
  | 'U' => some swapGreed
  | 'u' => some unicode
  | 'R' => some crlf
  | 'x' => some verbose
  | _ => none

/-- Option letters up to a colon or a closing parenthesis, which is returned.
No letter may come twice, nor the hyphen, and a hyphen needs a letter behind it. -/
def readChanges (on : Bool) (changes : OptionChanges) :
    List Char → Option (OptionChanges × Char × List Char)
  | [] => none
  | c :: rest =>
    if c = ':' || c = ')' then
      some (changes, c, rest)
    else if c = '-' then
      match rest with
      | [] => none
      | next :: _ =>
        if on && next != ':' && next != ')' then readChanges false changes rest else none
    else
      match PatternOption.ofLetter? c with
      | none => none
      | some option =>
        if changes.any (·.1 = option) then none
        else readChanges on (changes ++ [(option, on)]) rest

/-- What an opening parenthesis starts. -/
def readGroupStart (verbose : Bool) (text : List Char) : Option (GroupStart × List Char) := do
  match skipLayout verbose text with
  | '?' :: '=' :: _ | '?' :: '!' :: _ | '?' :: '<' :: '=' :: _ | '?' :: '<' :: '!' :: _ => none
  | '?' :: 'P' :: '<' :: rest | '?' :: '<' :: rest =>
    let (name, left) ← readGroupName rest
    return (.capture (some name), left)
  | '?' :: rest =>
    let (changes, last, left) ← readChanges true [] rest
    if last = ':' then return (.group changes, left)
    else if changes.isEmpty then none
    else return (.change changes, left)
  | left => return (.capture none, left)

/-- Whether layout is skipped after the switches. -/
def verboseAfter (verbose : Bool) (changes : OptionChanges) : Bool :=
  match changes.find? (·.1 = .verbose) with
  | some (_, on) => on
  | none => verbose

/-! ## Patterns -/

/-- Whether a quantifier may follow the element. -/
def Expr.isRepeatable : Expr → Bool
  | empty => false
  | change _ => false
  | _ => true

/-- The sequence of the elements, the last of which comes first. -/
def sequence (elements : List Expr) : Expr :=
  match elements with
  | [] => .empty
  | last :: earlier => earlier.foldl (fun later e => .seq e later) last

/-- The choice between the alternatives, the last of which comes first. -/
def choice (alternatives : List (List Expr)) : Expr :=
  match alternatives with
  | [] => .empty
  | last :: earlier => earlier.foldl (fun later es => .alt (sequence es) later) (sequence last)

/-- The elements with the last one quantified. -/
def quantify (quantifier : Quantifier) (reluctant : Bool) : List Expr → Option (List Expr)
  | [] => none
  | e :: earlier =>
    if e.isRepeatable then some (.rep e quantifier reluctant :: earlier) else none

/-- An element outside of a class. -/
def Element.expr : Element → Expr
  | char c => .char c
  | escapedByte c => .escapedByte c
  | cls c => .cls c
  | anchor a => .anchor a

/-- Alternatives up to the end of the text or a closing parenthesis, which is
left.  `alternatives` holds the finished alternatives and `elements` the
elements of the present one, the last first; `names` are the group names that
are taken. -/
def readAlternatives : Nat → (verbose : Bool) → (names : List (List Char)) →
    List (List Expr) → List Expr → List Char → Option (Expr × List (List Char) × List Char)
  | 0, _, _, _, _, _ => none
  | fuel + 1, verbose, names, alternatives, elements, text => do
    let proceed (elements : List Expr) (left : List Char) :=
      readAlternatives fuel verbose names alternatives elements left
    let repeated (quantifier : Quantifier) (left : List Char) := do
      let (reluctant, left) := takeReluctant left
      proceed (← quantify quantifier reluctant elements) left
    match skipLayout verbose text with
    | [] => return (choice (elements :: alternatives), names, [])
    | ')' :: left => return (choice (elements :: alternatives), names, ')' :: left)
    | '|' :: left => readAlternatives fuel verbose names (elements :: alternatives) [] left
    | '?' :: left => repeated .optional left
    | '*' :: left => repeated .many left
    | '+' :: left => repeated .some left
    | '\x7b' :: left =>
      let (quantifier, left) ← readBounds verbose left
      repeated quantifier (skipLayout verbose left)
    | '[' :: left =>
      let (cls, left) ← readClass verbose left
      proceed (.cls cls :: elements) left
    | '(' :: left =>
      let group (names : List (List Char)) (inner : Bool) (wrap : Expr → Expr)
          (left : List Char) := do
        let (body, names, left) ← readAlternatives fuel inner names [] [] left
        let left ← dropLead? [')'] left
        readAlternatives fuel verbose names alternatives (wrap body :: elements) left
      let (start, left) ← readGroupStart verbose left
      match start with
      | .change changes =>
        readAlternatives fuel (verboseAfter verbose changes) names alternatives
          (.change changes :: elements) left
      | .group changes => group names (verboseAfter verbose changes) (.group changes) left
      | .capture none => group names verbose .capture left
      | .capture (some name) =>
        if name ∈ names then none else group (name :: names) verbose .capture left
    | '\\' :: left =>
      let (element, left) ← readEscape verbose left
      proceed (element.expr :: elements) left
    | '.' :: left => proceed (.dot :: elements) left
    | '^' :: left => proceed (.anchor .lineStart :: elements) left
    | '$' :: left => proceed (.anchor .lineEnd :: elements) left
    | c :: left => proceed (.char c :: elements) left

/-- The pattern that a text writes down. -/
def Expr.read? (text : List Char) : Option Expr := do
  let (e, _, left) ← readAlternatives (text.length + 1) false [] [] [] text
  if left.isEmpty && e.depth .none ≤ depthLimit then return e else none

end FieldRules.Pattern
