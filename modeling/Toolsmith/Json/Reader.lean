import Toolsmith.Json.Value
import Toolsmith.Decimal.Integer
import Toolsmith.Text.StandIn
/-!
# Reading JSON

The reader accepts the JSON grammar and besides it the words `NaN`, `Infinity` and `-Infinity`.
It goes from left to right and stops at the first fault, which it reports by the number of
characters that are left there.  Integers are bounded in their number of digits, and arrays and
objects in how deep they nest.  Strings may ask for lone surrogates, for which characters stand in.
-/

namespace Toolsmith.Json

/-! ## 1. Faults -/

inductive Complaint
  | expectingValue
  | expectingName
  | expectingColon
  | expectingComma
  | extraData
  | controlCharacter
  | badEscape
  | badCodeEscape
  | unterminatedString
  | byteOrderMark
  deriving DecidableEq, Repr

def Complaint.text : Complaint → String
  | .expectingValue => "Expecting value"
  | .expectingName => "Expecting property name enclosed in double quotes"
  | .expectingColon => "Expecting ':' delimiter"
  | .expectingComma => "Expecting ',' delimiter"
  | .extraData => "Extra data"
  | .controlCharacter => "Invalid control character at"
  | .badEscape => "Invalid \\escape"
  | .badCodeEscape => "Invalid \\uXXXX escape"
  | .unterminatedString => "Unterminated string starting at"
  | .byteOrderMark => "Unexpected UTF-8 BOM (decode using utf-8-sig)"

inductive Fault
  /-- A break of the grammar with `left` characters to go. -/
  | malformed (complaint : Complaint) (left : Nat)
  /-- An integer with more digits than are read. -/
  | numeral (fault : Decimal.NumeralFault)
  /-- Arrays and objects nest too deep; the one that went too far is an array or an object. -/
  | tooDeep (isArray : Bool)
  deriving DecidableEq, Repr

/-- A break of the grammar in front of the given rest. -/
def complain {α : Type} (complaint : Complaint) (rest : List Char) : Except Fault α :=
  .error (.malformed complaint rest.length)

def isSpace (c : Char) : Bool := c == ' ' || c == '\t' || c == '\n' || c == '\r'

def skipSpace (cs : List Char) : List Char := cs.dropWhile isSpace

/-! ## 2. Strings -/

def hexValue? (c : Char) : Option Nat :=
  if '0' ≤ c ∧ c ≤ '9' then some (c.toNat - 48)
  else if 'a' ≤ c ∧ c ≤ 'f' then some (c.toNat - 87)
  else if 'A' ≤ c ∧ c ≤ 'F' then some (c.toNat - 55)
  else none

def codeUnit? (a b c d : Char) : Option Nat := do
  let a ← hexValue? a
  let b ← hexValue? b
  let c ← hexValue? c
  let d ← hexValue? d
  return a * 4096 + b * 256 + c * 16 + d

def shortEscape? : Char → Option Char
  | '"' => some '"'
  | '\\' => some '\\'
  | '/' => some '/'
  | 'b' => some '\x08'
  | 'f' => some '\x0c'
  | 'n' => some '\n'
  | 'r' => some '\r'
  | 't' => some '\t'
  | _ => none

/-- Reads a string after its opening quote as code units, the last one first in `done`.  The text
from the opening quote on is kept for the report of a string that does not end. -/
def scanString (opening : List Char) :
    List Char → List Nat → Except Fault (List Nat × List Char)
  | [], _ => complain .unterminatedString opening
  | '"' :: rest, done => .ok (done.reverse, rest)
  | '\\' :: escape, done =>
    match escape with
    | [] => complain .unterminatedString opening
    | 'u' :: a :: b :: c :: d :: next :: rest =>
      match codeUnit? a b c d with
      | some unit => scanString opening (next :: rest) (unit :: done)
      | none => complain .badCodeEscape escape
    | 'u' :: _ => complain .badCodeEscape escape
    | c :: rest =>
      match shortEscape? c with
      | some c => scanString opening rest (c.toNat :: done)
      | none => complain .badEscape ('\\' :: escape)
  | c :: rest, done =>
    if c.toNat < 0x20 then complain .controlCharacter (c :: rest)
    else scanString opening rest (c.toNat :: done)

def unitChar (lone : Text.StandIns) (unit : Nat) : Char :=
  if Text.isSurrogate unit then lone.charFor unit else Char.ofNat unit

/-- Code units as characters: a high surrogate and the low one after it are one character; for a
surrogate that stands alone its stand-in counts. -/
def joinUnits (lone : Text.StandIns) : List Nat → List Char
  | [] => []
  | [u] => [unitChar lone u]
  | u :: v :: rest =>
    if 0xD800 ≤ u ∧ u < 0xDC00 ∧ 0xDC00 ≤ v ∧ v < 0xE000 then
      Char.ofNat (0x10000 + (u - 0xD800) * 1024 + (v - 0xDC00)) :: joinUnits lone rest
    else unitChar lone u :: joinUnits lone (v :: rest)

def readString (lone : Text.StandIns) (opening : List Char) :
    Except Fault (String × List Char) := do
  let (units, rest) ← scanString opening opening.tail []
  return (String.ofList (joinUnits lone units), rest)

/-! ## 3. Numbers -/

/-- A number as it is written: its sign, its whole digits, its places, and its exponent. -/
structure Numeral where
  negative : Bool
  whole : List Char
  places : Option (List Char)
  exponent : Option Int
  deriving DecidableEq, Repr

def scanExponent (cs : List Char) : Option Int × List Char :=
  match cs with
  | e :: rest =>
    if e = 'e' ∨ e = 'E' then
      let (negative, rest) :=
        match rest with
        | '-' :: rest => (true, rest)
        | '+' :: rest => (false, rest)
        | rest => (false, rest)
      let digits := rest.takeWhile Char.isDigit
      if digits.isEmpty then (none, cs)
      else
        let n : Int := Decimal.ofDigits (digits.map Decimal.digitValue)
        (some (if negative then -n else n), rest.dropWhile Char.isDigit)
    else (none, cs)
  | [] => (none, cs)

def scanPlaces (cs : List Char) : Option (List Char) × List Char :=
  match cs with
  | '.' :: rest =>
    let digits := rest.takeWhile Char.isDigit
    if digits.isEmpty then (none, cs) else (some digits, rest.dropWhile Char.isDigit)
  | _ => (none, cs)

/-- The whole digits at the start of a text: a zero alone, or digits that begin with another. -/
def scanWhole? (cs : List Char) : Option (List Char × List Char) :=
  match cs with
  | '0' :: rest => some (['0'], rest)
  | c :: _ =>
    if c.isDigit then some (cs.takeWhile Char.isDigit, cs.dropWhile Char.isDigit) else none
  | [] => none

def scanNumeral? (cs : List Char) : Option (Numeral × List Char) := do
  let (negative, unsigned) :=
    match cs with
    | '-' :: rest => (true, rest)
    | rest => (false, rest)
  let (whole, rest) ← scanWhole? unsigned
  let (places, rest) := scanPlaces rest
  let (exponent, rest) := scanExponent rest
  return (⟨negative, whole, places, exponent⟩, rest)

/-- The value of a number: an integer if it has neither places nor exponent. -/
def Numeral.value (n : Numeral) : Except Fault Json :=
  match n.places, n.exponent with
  | none, none =>
    match Decimal.readInteger (if n.negative then '-' :: n.whole else n.whole) with
    | .ok i => .ok (.integer i)
    | .error fault => .error (.numeral fault)
  | places, exponent =>
    let places := places.getD []
    let digits := Decimal.ofDigits ((n.whole ++ places).map Decimal.digitValue)
    .ok (.float (Decimal.Binary64.ofDecimal n.negative digits (exponent.getD 0 - places.length)))

/-! ## 4. Values -/

def words : List (String × Json) :=
  [("null", .null), ("true", .bool true), ("false", .bool false), ("NaN", .float .notANumber),
    ("Infinity", .float (.infinite false)), ("-Infinity", .float (.infinite true))]

def readWord? (cs : List Char) : Option (Json × List Char) :=
  words.findSome? fun word =>
    if word.1.toList.isPrefixOf cs then some (word.2, cs.drop word.1.toList.length) else none

/-- How deep arrays and objects may nest. -/
def depthLimit : Nat := 985

mutual

/-- Reads a value.  `fuel` bounds the steps, `depth` counts the arrays and objects around. -/
def readValue (lone : Text.StandIns) : Nat → Nat → List Char → Except Fault (Json × List Char)
  | 0, _, cs => complain .expectingValue cs
  | fuel + 1, depth, cs =>
    match cs with
    | '"' :: _ => do
      let (s, rest) ← readString lone cs
      return (.string s, rest)
    | '{' :: rest => do
      if depth ≥ depthLimit then .error (.tooDeep false)
      else
        match skipSpace rest with
        | '}' :: rest => return (.object [], rest)
        | rest => do
          let (fields, rest) ← readFields lone fuel (depth + 1) rest []
          return (.object fields, rest)
    | '[' :: rest => do
      if depth ≥ depthLimit then .error (.tooDeep true)
      else
        match skipSpace rest with
        | ']' :: rest => return (.array [], rest)
        | rest => do
          let (items, rest) ← readItems lone fuel (depth + 1) rest []
          return (.array items, rest)
    | _ =>
      match readWord? cs with
      | some found => .ok found
      | none =>
        match scanNumeral? cs with
        | some (numeral, rest) => do
          let value ← numeral.value
          return (value, rest)
        | none => complain .expectingValue cs

/-- Reads the items of an array up to its closing bracket; `done` holds the earlier ones, the
last one first. -/
def readItems (lone : Text.StandIns) : Nat → Nat → List Char → List Json →
    Except Fault (List Json × List Char)
  | 0, _, cs, _ => complain .expectingValue cs
  | fuel + 1, depth, cs, done => do
    let (item, rest) ← readValue lone fuel depth cs
    match skipSpace rest with
    | ']' :: rest => return ((item :: done).reverse, rest)
    | ',' :: rest => readItems lone fuel depth (skipSpace rest) (item :: done)
    | rest => complain .expectingComma rest

def readFields (lone : Text.StandIns) : Nat → Nat → List Char → List (String × Json) →
    Except Fault (List (String × Json) × List Char)
  | 0, _, cs, _ => complain .expectingName cs
  | fuel + 1, depth, cs, done =>
    match cs with
    | '"' :: _ => do
      let (name, rest) ← readString lone cs
      match skipSpace rest with
      | ':' :: rest => do
        let (value, rest) ← readValue lone fuel depth (skipSpace rest)
        match skipSpace rest with
        | '}' :: rest => return (((name, value) :: done).reverse, rest)
        | ',' :: rest => readFields lone fuel depth (skipSpace rest) ((name, value) :: done)
        | rest => complain .expectingComma rest
      | rest => complain .expectingColon rest
    | _ => complain .expectingName cs

end

/-- The value that a whole text denotes.  A text may not begin with a byte order mark. -/
def read (cs : List Char) (lone : Text.StandIns := []) : Except Fault Json :=
  match cs with
  | '\ufeff' :: _ => complain .byteOrderMark cs
  | _ => do
    let (value, rest) ← readValue lone (2 * cs.length + 2) 0 (skipSpace cs)
    match skipSpace rest with
    | [] => return value
    | rest => complain .extraData rest

/-- Line and column, both from one, of the place with `left` characters to go. -/
def position (cs : List Char) (left : Nat) : Nat × Nat :=
  let before := cs.take (cs.length - left)
  (before.count '\n' + 1, (before.reverse.takeWhile (· ≠ '\n')).length + 1)

end Toolsmith.Json
