import FieldRules.Pattern.Syntax

/-!
# The patterns of the rules

The fixed patterns of the format rules, and the patterns that are built from a
rule's parameters.  Case is ignored in all of them.
-/

namespace FieldRules.Rule.Patterns

open Pattern

/-! ## Building blocks -/

/-- White space. -/
def space : Expr := .cls (.shorthand .space false)

/-- A digit from 0 to 9. -/
def asciiDigit : Expr := .oneOf [.interval '0' '9']

/-- Exactly `n` copies. -/
def times (n : Nat) (e : Expr) : Expr := .rep e (.exactly n)

/-- Between `lo` and `hi` copies. -/
def between (lo hi : Nat) (e : Expr) : Expr := .rep e (.between lo hi)

/-- No copy or one. -/
def optional (e : Expr) : Expr := .rep e .optional

/-- The letters of a word. -/
def word (s : String) : Expr := .word s.toList

/-- A whole text of one or more characters of a class. -/
def oneOrMoreOf (items : List ClassExpr) : Expr :=
  .whole (.rep (.oneOf items) .some)

/-- A choice between whole words. -/
def words (options : List String) : Expr :=
  .whole (.choice (options.map word))

/-- All letters, as an item of a class. -/
def letterItem : ClassExpr := .named .letter false

/-- All decimal digits, as an item of a class. -/
def numberItem : ClassExpr := .named .decimalNumber false

/-- White space, as an item of a class. -/
def spaceItem : ClassExpr := .shorthand .space false

/-! ## Presence and classes of characters -/

/-- Anything but white space. -/
def required : Expr := .rep (.cls (.shorthand .space true)) .some

def accepted : Expr := words ["yes", "on", "1", "true"]

def alpha : Expr := .whole (.rep (.cls letterItem) .some)

def alphaSpaces : Expr := oneOrMoreOf [letterItem, spaceItem]

def alphaNum : Expr := oneOrMoreOf [letterItem, numberItem]

def alphaNumSpaces : Expr := oneOrMoreOf [letterItem, numberItem, spaceItem]

def alphaDash : Expr := oneOrMoreOf [letterItem, numberItem, .char '_', .char '-']

def alphaDashSpaces : Expr :=
  oneOrMoreOf [letterItem, numberItem, spaceItem, .char '_', .char '-']

/-! ## Formats -/

def boolean : Expr := words ["true", "false", "0", "1"]

/-- The card numbers of the known issuers, without separators. -/
def creditCard : Expr :=
  let digits (n : Nat) := times n asciiDigit
  .whole (.plainChoice [
    .seqOf [word "4", digits 12, optional (.plainChoice [digits 3])],
    .seqOf [word "5", .oneOf [.interval '1' '5'], digits 14],
    .seqOf [word "6", .plainChoice [word "011", .seqOf [word "5", digits 2]], digits 12],
    .seqOf [word "3", .oneOf [.char '4', .char '7'], digits 13],
    .seqOf [word "3",
      .plainChoice [.seqOf [word "0", .oneOf [.interval '0' '5']],
        .seqOf [.oneOf [.char '6', .char '8'], asciiDigit]],
      digits 11],
    .seqOf [.plainChoice [word "2131", word "1800", .seqOf [word "35", digits 3]], digits 11]])

/-- A mailbox, an at sign and two or more labels, the last one of letters. -/
def email : Expr :=
  .whole (.seqOf [
    .rep (.oneOf [.shorthand .word false, .char '.', .char '%', .char '+', .char '\'',
      .char '-']) .some,
    word "@",
    .rep (.plainChoice [.seqOf [
      .rep (.oneOf [letterItem, numberItem, .char '-']) .some, word "."]]) .some,
    .rep (.cls letterItem) (.atLeast 2)])

def iban : Expr :=
  let alphanumeric := Expr.oneOf [.interval '0' '9', .interval 'a' 'z']
  .whole (.seqOf [
    times 2 (.oneOf [.interval 'a' 'z']),
    times 2 .digit,
    optional space,
    between 2 7 (.capture (.seqOf [times 4 alphanumeric, optional space])),
    between 1 4 alphanumeric])

/-- North American telephone numbers. -/
def phone : Expr :=
  let separator := optional (.oneOf [spaceItem, .char '.', .char '-'])
  .whole (.seqOf [
    optional (.capture (.seqOf [optional (word "+"), word "1", separator])),
    optional (word "("), times 3 .digit, optional (word ")"), separator,
    times 3 .digit, separator, times 4 .digit])

def time : Expr :=
  let sixtieth := Expr.seqOf [word ":", .oneOf [.interval '0' '5'], .digit]
  .whole (.seqOf [
    .choice [
      .seqOf [optional (.oneOf [.char '0', .char '1']), .digit],
      .seqOf [word "2", .oneOf [.interval '0' '3']]],
    sixtieth, optional (.capture sixtieth)])

def url : Expr :=
  .whole (.seqOf [
    .choice [.seqOf [word "http", optional (word "s")], word "ftp"],
    word "://",
    .noneOf [spaceItem, .char '/', .char '$', .char '.', .char '?', .char '#'],
    .rep (.noneOf [spaceItem]) .many])

/-- A number from 0 to 255 in up to three digits. -/
def octet : Expr :=
  .choice [
    .seqOf [word "25", .oneOf [.interval '0' '5']],
    .seqOf [word "2", .oneOf [.interval '0' '4'], .digit],
    .seqOf [optional (.oneOf [.char '0', .char '1']), .digit, optional .digit]]

def ipv4 : Expr :=
  .whole (.seqOf [times 3 (.capture (.seqOf [octet, word "."])), octet])

/-- One to four hexadecimal digits. -/
def hexGroup : Expr :=
  between 1 4 (.oneOf [.interval '0' '9', .interval 'a' 'f'])

/-- Groups of hexadecimal digits with at most one gap of zero groups. -/
def ipv6 : Expr :=
  let before := Expr.capture (.seqOf [hexGroup, word ":"])
  let after := Expr.capture (.seqOf [word ":", hexGroup])
  .whole (.choice [
    .seqOf [times 7 before, hexGroup],
    .seqOf [between 1 7 before, word ":"],
    .seqOf [between 1 6 before, word ":", hexGroup],
    .seqOf [between 1 5 before, between 1 2 after],
    .seqOf [between 1 4 before, between 1 3 after],
    .seqOf [between 1 3 before, between 1 4 after],
    .seqOf [between 1 2 before, between 1 5 after],
    .seqOf [hexGroup, word ":", between 1 6 after],
    .seqOf [word ":", .choice [between 1 7 after, word ":"]]])

/-! ## Numbers -/

/-- An optional sign. -/
def sign : Expr := optional (.oneOf [.char '-', .char '+'])

def integer : Expr := .whole (.rep .digit .some)

def integerSigned : Expr := .whole (.seqOf [sign, .rep .digit .some])

def float : Expr := .whole (.seqOf [.rep .digit .many, word ".", .rep .digit .some])

def floatSigned : Expr :=
  .whole (.seqOf [sign, .rep .digit .many, word ".", .rep .digit .some])

def numeric : Expr :=
  .whole (.seqOf [.rep .digit .many, optional (word "."), .rep .digit .some])

def numericSigned : Expr :=
  .whole (.seqOf [sign, .rep .digit .many, optional (word "."), .rep .digit .some])

/-! ## From parameters -/

/-- The quantifier for a count between two bounds, the upper one of which may be missing. -/
def countQuantifier (lo : Nat) : Option Nat → Quantifier
  | some hi => if hi = lo then .exactly lo else .between lo hi
  | none => .atLeast lo

/-- A text of a number of characters, line breaks included. -/
def length (lo : Nat) (hi : Option Nat) : Expr :=
  .seq (.change [(.dotAll, true)]) (.whole (.rep .dot (countQuantifier lo hi)))

/-- A text of a number of decimal digits. -/
def digits (lo hi : Nat) : Expr :=
  .whole (.rep .digit (countQuantifier lo (some hi)))

/-- One of the items, character for character. -/
def list (items : List String) : Expr :=
  .whole (.plainChoice (items.map word))

end FieldRules.Rule.Patterns
