import Toolsmith.Failure
/-!
# Checks of values

The tests that a text passes when it stands for an integer, a truth value, a name, a port or one
of some choices, and their forms for handlers, which give the value or say what is wrong.
-/

namespace Toolsmith.Check

/-! ## 1. Tests -/

/-- An optional minus sign and at least one ASCII digit. -/
def isInteger (s : String) : Bool := Decimal.isIntegerChars s.toList

def trueWords : List String := ["true", "yes", "1", "on"]

def falseWords : List String := ["false", "no", "0", "off"]

/-- A word for true or false, in letters of any size. -/
def isBoolean (s : String) : Bool :=
  trueWords.contains (Text.lowerLetters s) || falseWords.contains (Text.lowerLetters s)

/-- The form in which a word for a truth value is kept; what is no such word is false. -/
def normalizeBoolean (s : String) : String :=
  if trueWords.contains (Text.lowerLetters s) then "true" else "false"

def isLetter (c : Char) : Bool := c.isAlpha

def isNameChar (c : Char) : Bool := c.isAlphanum || c == '_' || c == '-'

/-- A name for a command, a flag or a program: an ASCII letter, then letters, digits, underscores
and dashes. -/
def isName (s : String) : Bool :=
  match s.toList with
  | [] => false
  | c :: cs => isLetter c && cs.all isNameChar

def isChoice (s : String) (choices : List String) : Bool := choices.contains s

/-- The number of a network port, a run of ASCII digits from 1 to 65535; an error if the run is too
long to be read as a number. -/
def portNumber? (s : String) : Except Decimal.NumeralFault (Option Int) :=
  if s.toList.isEmpty || !s.toList.all Char.isDigit then .ok none
  else
    match Decimal.readInteger s.toList with
    | .ok n => .ok (if 1 ≤ n ∧ n ≤ 65535 then some n else none)
    | .error fault => .error fault

/-! ## 2. Demands -/

def ofNumeral {α : Type} : Except Decimal.NumeralFault α → Except Failure α
  | .ok a => .ok a
  | .error fault => .error (.accident (.numeral fault))

def requireInteger (name value : String) : Except Failure Int :=
  if isInteger value then ofNumeral (Decimal.readInteger value.toList)
  else .error (.validation (.notInteger name value))

def requirePort (name value : String) : Except Failure Int := do
  match ← ofNumeral (portNumber? value) with
  | some n => return n
  | none => throw (.validation (.notPort name value))

def requirePath (files : Files) (name value : String) : Except Failure String :=
  if files.has value then .ok value else .error (.validation (.notPath name value))

def requireChoice (name value : String) (choices : List String) : Except Failure String :=
  if isChoice value choices then .ok value
  else .error (.validation (.notChoice name choices value))

def requireNonempty (name value : String) : Except Failure String :=
  if value = "" then .error (.validation (.isEmpty name)) else .ok value

end Toolsmith.Check
