import Toolsmith.Text.Printable
import Toolsmith.Text.StandIn
/-!
# Quoted literals

A text written between quotes so that it can be read back.  The quotes are single ones unless the
text holds a single quote and no double one.  Inside, the closing quote and the backslash get a
backslash in front; line feed, carriage return and tab have letters; every other character that
is not printable is written by its code point in two, four or eight hexadecimal digits.  A character
that stands in for a code point is written as that code point.
-/

namespace Toolsmith.Text.Quoted

def hexDigit (n : Nat) : Char :=
  if n < 10 then Char.ofNat (48 + n) else Char.ofNat (87 + n)

/-- The last `width` hexadecimal digits of a number. -/
def hexDigits : Nat → Nat → List Char
  | 0, _ => []
  | width + 1, n => hexDigits width (n / 16) ++ [hexDigit (n % 16)]

def escapeCode (code : Nat) : List Char :=
  if code ≤ 0xff then '\\' :: 'x' :: hexDigits 2 code
  else if code ≤ 0xffff then '\\' :: 'u' :: hexDigits 4 code
  else '\\' :: 'U' :: hexDigits 8 code

/-- A character as it stands inside a literal between the given quotes. -/
def escape (quote c : Char) : List Char :=
  if c = quote ∨ c = '\\' then ['\\', c]
  else if c = '\n' then ['\\', 'n']
  else if c = '\r' then ['\\', 'r']
  else if c = '\t' then ['\\', 't']
  else if isPrintable c then [c]
  else escapeCode c.toNat

/-- A character or the code point that it stands in for, inside a literal. -/
def escapeIn (lone : StandIns) (quote c : Char) : List Char :=
  match lone.code? c with
  | some code => escapeCode code
  | none => escape quote c

/-- The quotes that a text is written between. -/
def quoteFor (cs : List Char) : Char :=
  if cs.contains '\'' && !cs.contains '"' then '"' else '\''

def encode (cs : List Char) (lone : StandIns := []) : List Char :=
  let quote := quoteFor cs
  quote :: (cs.flatMap (escapeIn lone quote) ++ [quote])

def literal (s : String) (lone : StandIns := []) : String := String.ofList (encode s.toList lone)

end Toolsmith.Text.Quoted
