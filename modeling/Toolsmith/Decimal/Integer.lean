import Toolsmith.Text.Blank
/-!
# Integers in decimal

Two ways to read an integer from a text.  The strict one takes an optional minus sign and ASCII
digits.  The lenient one trims, takes either sign, single underscores between digits and the
decimal digits of every script.  Neither reads more than `digitLimit` digits: a longer numeral is
refused, whatever its value.
-/

namespace Toolsmith.Decimal

/-! ## 1. Strict numerals -/

/-- The number of digits of the longest numeral that is read. -/
def digitLimit : Nat := 4300

inductive NumeralFault
  /-- It is no numeral. -/
  | malformed (text : String)
  /-- It has more digits than are read. -/
  | tooLong (digits : Nat)
  deriving DecidableEq, Repr

def digitValue (c : Char) : Nat := c.toNat - 48

def ofDigits (values : List Nat) : Nat := values.foldl (fun n d => n * 10 + d) 0

def isIntegerChars : List Char → Bool
  | '-' :: cs => !cs.isEmpty && cs.all Char.isDigit
  | cs => !cs.isEmpty && cs.all Char.isDigit

def integerOfChars : List Char → Int
  | '-' :: cs => - (ofDigits (cs.map digitValue) : Int)
  | cs => ofDigits (cs.map digitValue)

def digitCount : List Char → Nat
  | '-' :: cs => cs.length
  | cs => cs.length

def readInteger (cs : List Char) : Except NumeralFault Int :=
  if digitCount cs > digitLimit then .error (.tooLong (digitCount cs))
  else .ok (integerOfChars cs)

/-! ## 2. Lenient numerals -/

/-- The zeros of the scripts that have decimal digits; nine digits follow each. -/
def zeros : List Nat :=
  [0x30, 0x660, 0x6f0, 0x7c0, 0x966, 0x9e6, 0xa66, 0xae6, 0xb66, 0xbe6, 0xc66, 0xce6, 0xd66,
    0xde6, 0xe50, 0xed0, 0xf20, 0x1040, 0x1090, 0x17e0, 0x1810, 0x1946, 0x19d0, 0x1a80, 0x1a90,
    0x1b50, 0x1bb0, 0x1c40, 0x1c50, 0xa620, 0xa8d0, 0xa900, 0xa9d0, 0xa9f0, 0xaa50, 0xabf0,
    0xff10, 0x104a0, 0x10d30, 0x11066, 0x110f0, 0x11136, 0x111d0, 0x112f0, 0x11450, 0x114d0,
    0x11650, 0x116c0, 0x11730, 0x118e0, 0x11950, 0x11c50, 0x11d50, 0x11da0, 0x16a60, 0x16ac0,
    0x16b50, 0x1d7ce, 0x1d7d8, 0x1d7e2, 0x1d7ec, 0x1d7f6, 0x1e140, 0x1e2f0, 0x1e950, 0x1fbf0]

def digitOfAnyScript? (c : Char) : Option Nat :=
  (zeros.find? fun first => first ≤ c.toNat && c.toNat < first + 10).map (c.toNat - ·)

/-- The digits of a numeral in which single underscores may stand between digits; `after` tells
whether a digit stands just before. -/
def digitsBetween : Bool → List Char → Option (List Nat)
  | after, [] => if after then some [] else none
  | after, c :: cs =>
    if c = '_' then (if after then digitsBetween false cs else none)
    else
      match digitOfAnyScript? c with
      | none => none
      | some d => (digitsBetween true cs).map (d :: ·)

/-- The blanks that may stand around a lenient numeral: all but the four upper separators. -/
def isMargin (c : Char) : Bool := Text.isBlank c && !(0x1C ≤ c.toNat && c.toNat ≤ 0x1F)

def isNumeralChar (c : Char) : Bool := c = '_' || (digitOfAnyScript? c).isSome

/-- The integer that a lenient numeral denotes.  The row of digits is looked at first: if it is too
long, that is the fault, whatever follows it. -/
def readLenient (s : String) : Except NumeralFault Int :=
  let cs := s.toList
  let core := ((cs.dropWhile isMargin).reverse.dropWhile isMargin).reverse
  let (negative, core) :=
    match core with
    | '-' :: rest => (true, rest)
    | '+' :: rest => (false, rest)
    | rest => (false, rest)
  match digitsBetween false (core.takeWhile isNumeralChar) with
  | none => .error (.malformed s)
  | some values =>
    if values.length > digitLimit then .error (.tooLong values.length)
    else if (core.dropWhile isNumeralChar).isEmpty then
      let n : Int := ofDigits values
      .ok (if negative then -n else n)
    else .error (.malformed s)

end Toolsmith.Decimal
