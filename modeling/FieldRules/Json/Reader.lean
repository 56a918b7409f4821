import FieldRules.Json.Basic
import FieldRules.Text.Split

/-!
# Reading JSON

`Json.parse?` reads one value that fills the whole text, blanks around it
aside.  Every reader returns what it read and the text behind it.  A string
that names half a character is read over and gives an unreadable value.
-/

namespace FieldRules.Json

open Text Number

/-- Whether a character may stand between the parts of a document. -/
def isLayout (c : Char) : Bool :=
  c = ' ' || c = '\n' || c = '\t' || c = '\r'

/-- The text from its first other character on. -/
def skipLayout (text : List Char) : List Char :=
  text.dropWhile isLayout

/-! ## Strings -/

def hexValue? (c : Char) : Option Nat :=
  if c.isDigit then some (c.toNat - '0'.toNat)
  else if 'a' ≤ c && c ≤ 'f' then some (c.toNat - 'a'.toNat + 10)
  else if 'A' ≤ c && c ≤ 'F' then some (c.toNat - 'A'.toNat + 10)
  else none

/-- The value of four hexadecimal digits. -/
def hexCode? (a b c d : Char) : Option Nat := do
  return 4096 * (← hexValue? a) + 256 * (← hexValue? b) + 16 * (← hexValue? c) + (← hexValue? d)

/-- The character that one letter behind a backslash stands for. -/
def shortEscape? : Char → Option Char
  | '"' => some '"'
  | '\\' => some '\\'
  | '/' => some '/'
  | 'b' => some '\x08'
  | 'f' => some '\x0c'
  | 'n' => some '\n'
  | 'r' => some '\r'
  | 't' => some '\t'
  | _ => none

/-- Whether a code is the first half of a character. -/
def isHighHalf (code : Nat) : Bool := 0xD800 ≤ code && code < 0xDC00

/-- The character whose second half has the given code. -/
def joinHalves? (high low : Nat) : Option Char :=
  if 0xDC00 ≤ low && low < 0xE000 then
    some (Char.ofNat (0x10000 + 0x400 * (high - 0xD800) + (low - 0xDC00)))
  else
    none

/-- What a string goes on with, behind a character.  Neither is known if half a
character stands alone. -/
def behindChar (char : Option Char) (rest : Option (Option (List Char) × List Char)) :
    Option (Option (List Char) × List Char) :=
  rest.map fun (chars, left) => (char.bind fun c => chars.map (c :: ·), left)

/-- The characters of a string up to its closing quote, or nothing in their
place if half a character stands alone among them.  Codes above the basic plane
are written as two halves, which stand together; `high` is the first half of a
character whose second half should come next. -/
def readChars (high : Option Nat) : List Char → Option (Option (List Char) × List Char)
  | [] => none
  | '"' :: rest => some (if high.isSome then none else some [], rest)
  | '\\' :: 'u' :: a :: b :: c :: d :: rest => do
    let code ← hexCode? a b c d
    match high.bind (joinHalves? · code) with
    | some char => behindChar (some char) (readChars none rest)
    | none =>
      if isHighHalf code then
        (readChars (some code) rest).map fun (chars, left) =>
          (if high.isSome then none else chars, left)
      else
        let char := if code.isValidChar && high.isNone then some (Char.ofNat code) else none
        behindChar char (readChars none rest)
  | '\\' :: c :: rest => do
    let char ← shortEscape? c
    behindChar (if high.isSome then none else some char) (readChars none rest)
  | c :: rest =>
    if c.toNat < 0x20 then none
    else behindChar (if high.isSome then none else some c) (readChars none rest)

/-- The value of a string with these characters. -/
def ofChars : Option (List Char) → Json
  | some chars => .string (String.ofList chars)
  | none => .unreadable

/-- The value of an object with these entries, which needs all of its keys. -/
def ofEntries (entries : List (Option (List Char) × Json)) : Json :=
  match entries.mapM fun (key, value) => key.map fun chars => (String.ofList chars, value) with
  | some entries => .object entries
  | none => .unreadable

/-! ## Numbers -/

/-- The digits at the start of the text, if there are any. -/
def readDigits (text : List Char) : Option (List Char × List Char) :=
  match text.takeWhile Char.isDigit with
  | [] => none
  | digits => some (digits, text.dropWhile Char.isDigit)

/-- An exponent, if one stands at the start of the text. -/
def readExponent : List Char → Option (Option Int × List Char)
  | [] => some (none, [])
  | c :: rest =>
    if c = 'e' || c = 'E' then
      let (negative, rest) := takeSign rest
      (readDigits rest).map fun (digits, left) =>
        (some (if negative then -(digitsValue digits : Int) else digitsValue digits), left)
    else
      some (none, c :: rest)

/-- A number; a whole part of several digits does not start with zero. -/
def readNumeral (text : List Char) : Option (Numeral × List Char) := do
  let (negative, text) := match text with
    | '-' :: rest => (true, rest)
    | _ => (false, text)
  let (whole, text) ← readDigits text
  if whole.head? = some '0' && whole.length > 1 then none
  let (fraction, text) ← match text with
    | '.' :: rest => (readDigits rest).map fun (digits, left) => (some digits, left)
    | _ => some (none, text)
  let (exponent, text) ← readExponent text
  return (⟨negative, whole, fraction, exponent⟩, text)

/-! ## Values -/

mutual

/-- One value, behind any layout. -/
def readValue : Nat → List Char → Option (Json × List Char)
  | 0, _ => none
  | fuel + 1, text =>
    match skipLayout text with
    | '\x7b' :: rest =>
      match skipLayout rest with
      | '\x7d' :: left => some (.object [], left)
      | _ => (readEntries fuel rest).map fun (entries, left) => (ofEntries entries, left)
    | '[' :: rest =>
      match skipLayout rest with
      | ']' :: left => some (.array [], left)
      | _ => (readItems fuel rest).map fun (items, left) => (.array items, left)
    | '"' :: rest => (readChars none rest).map fun (chars, left) => (ofChars chars, left)
    | text =>
      match dropLead? "null".toList text with
      | some left => some (.null, left)
      | none =>
        match dropLead? "true".toList text with
        | some left => some (.bool true, left)
        | none =>
          match dropLead? "false".toList text with
          | some left => some (.bool false, left)
          | none => (readNumeral text).map fun (n, left) => (.number n, left)

/-- The items of an array up to its closing bracket. -/
def readItems : Nat → List Char → Option (List Json × List Char)
  | 0, _ => none
  | fuel + 1, text => do
    let (item, left) ← readValue fuel text
    match skipLayout left with
    | ',' :: rest =>
      let (items, left) ← readItems fuel rest
      return (item :: items, left)
    | ']' :: left => return ([item], left)
    | _ => none

/-- The entries of an object up to its closing brace. -/
def readEntries : Nat → List Char → Option (List (Option (List Char) × Json) × List Char)
  | 0, _ => none
  | fuel + 1, text => do
    match skipLayout text with
    | '"' :: rest =>
      let (key, left) ← readChars none rest
      match skipLayout left with
      | ':' :: rest =>
        let (value, left) ← readValue fuel rest
        match skipLayout left with
        | ',' :: rest =>
          let (entries, left) ← readEntries fuel rest
          return ((key, value) :: entries, left)
        | '\x7d' :: left => return ([(key, value)], left)
        | _ => none
      | _ => none
    | _ => none

end

/-- The value that fills the text. -/
def parse? (text : String) : Option Json := do
  let chars := text.toList
  let (value, left) ← readValue (2 * chars.length + 2) chars
  if (skipLayout left).isEmpty then return value else none

end FieldRules.Json
