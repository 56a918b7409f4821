import FieldRules.Json.Basic

/-!
# Writing JSON

`compact` writes a value without any blanks, `pretty` with one item a line and
two blanks of indentation for each level.  Quotes, backslashes and control
characters are escaped, everything else is written as it is.  What cannot be
read is written as null.

`sortKeys` puts the entries of every object into the order of their keys; of
entries with the same key the last one stays.
-/

namespace FieldRules.Json

def hexDigit (n : Nat) : Char :=
  if n < 10 then Char.ofNat ('0'.toNat + n) else Char.ofNat ('a'.toNat + n - 10)

/-- A character inside a quoted string. -/
def escapeChar (c : Char) : List Char :=
  match c with
  | '"' => ['\\', '"']
  | '\\' => ['\\', '\\']
  | '\n' => ['\\', 'n']
  | '\r' => ['\\', 'r']
  | '\t' => ['\\', 't']
  | '\x08' => ['\\', 'b']
  | '\x0c' => ['\\', 'f']
  | c =>
    if c.toNat < 0x20 then
      ['\\', 'u', '0', '0', hexDigit (c.toNat / 16), hexDigit (c.toNat % 16)]
    else
      [c]

/-- A string between quotes. -/
def quoted (s : String) : List Char :=
  '"' :: s.toList.flatMap escapeChar ++ ['"']

/-! ## On one line -/

mutual

/-- The value on one line, without blanks. -/
def compactChars : Json → List Char
  | null => "null".toList
  | bool true => "true".toList
  | bool false => "false".toList
  | number n => n.render.toList
  | string s => quoted s
  | array items => '[' :: compactItems true items ++ [']']
  | object entries => '\x7b' :: compactEntries true entries ++ ['\x7d']
  | unreadable => "null".toList

def compactItems (first : Bool) : List Json → List Char
  | [] => []
  | item :: rest =>
    (if first then [] else [',']) ++ compactChars item ++ compactItems false rest

def compactEntries (first : Bool) : List (String × Json) → List Char
  | [] => []
  | (key, value) :: rest =>
    (if first then [] else [',']) ++ quoted key ++ ':' :: compactChars value ++
      compactEntries false rest

end

/-- The value on one line, without blanks. -/
def compact (value : Json) : String :=
  String.ofList value.compactChars

/-! ## On several lines -/

/-- A line break and the indentation of a level. -/
def newline (level : Nat) : List Char :=
  '\n' :: List.replicate (2 * level) ' '

mutual

/-- The value with one item a line, at a level of indentation. -/
def prettyChars (level : Nat) : Json → List Char
  | null => "null".toList
  | bool true => "true".toList
  | bool false => "false".toList
  | number n => n.render.toList
  | string s => quoted s
  | array [] => ['[', ']']
  | array (item :: rest) =>
    '[' :: prettyItems (level + 1) true (item :: rest) ++ newline level ++ [']']
  | object [] => ['\x7b', '\x7d']
  | object (entry :: rest) =>
    '\x7b' :: prettyEntries (level + 1) true (entry :: rest) ++ newline level ++ ['\x7d']
  | unreadable => "null".toList

def prettyItems (level : Nat) (first : Bool) : List Json → List Char
  | [] => []
  | item :: rest =>
    (if first then [] else [',']) ++ newline level ++ prettyChars level item ++
      prettyItems level false rest

def prettyEntries (level : Nat) (first : Bool) : List (String × Json) → List Char
  | [] => []
  | (key, value) :: rest =>
    (if first then [] else [',']) ++ newline level ++ quoted key ++ ':' :: ' ' ::
      prettyChars level value ++ prettyEntries level false rest

end

/-- The value with one item a line. -/
def pretty (value : Json) : String :=
  String.ofList (value.prettyChars 0)

/-! ## Sorted keys -/

/-- The entries in the order of their keys, with one entry put in its place. -/
def insertSorted (key : String) (value : Json) : List (String × Json) → List (String × Json)
  | [] => [(key, value)]
  | (k, v) :: rest =>
    if key = k then (key, value) :: rest
    else if key < k then (key, value) :: (k, v) :: rest
    else (k, v) :: insertSorted key value rest

mutual

/-- The value with the entries of every object in the order of their keys. -/
def sortKeys : Json → Json
  | array items => array (sortItems items)
  | object entries => object (sortEntries [] entries)
  | value => value

def sortItems : List Json → List Json
  | [] => []
  | item :: rest => sortKeys item :: sortItems rest

def sortEntries (sorted : List (String × Json)) : List (String × Json) → List (String × Json)
  | [] => sorted
  | (key, value) :: rest => sortEntries (insertSorted key (sortKeys value) sorted) rest

end

end FieldRules.Json
