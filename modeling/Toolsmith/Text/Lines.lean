/-!
# Lines

Two rules about line ends.  `lines` cuts a text at every line boundary that Unicode knows; the
pair carriage return and line feed is one boundary, and a boundary at the very end opens no
further line.  `unifyNewlines` turns the three common line ends into a single line feed, as is
done when a file is read as text.
-/

namespace Toolsmith.Text

/-- The characters that end a line: line feed, vertical tab, form feed, carriage return, the
three upper separators, next line, and the line and paragraph separators. -/
def isLineEnd (c : Char) : Bool :=
  c == '\n' || c == '\x0b' || c == '\x0c' || c == '\r' || c == '\x1c' || c == '\x1d' ||
    c == '\x1e' || c == '\u0085' || c == '\u2028' || c == '\u2029'

/-- A character put in front of the first line; without a line it begins one. -/
def consLine (c : Char) : List (List Char) → List (List Char)
  | [] => [[c]]
  | line :: rest => (c :: line) :: rest

/-- One character, read from the right: whether the next character is a line feed, and the
lines to the right of here. -/
def lineStep (c : Char) (state : Bool × List (List Char)) : Bool × List (List Char) :=
  if c == '\r' && state.1 then (false, state.2)
  else if isLineEnd c then (c == '\n', [] :: state.2)
  else (false, consLine c state.2)

def lineChars (cs : List Char) : List (List Char) := (cs.foldr lineStep (false, [])).2

def lines (s : String) : List String := (lineChars s.toList).map String.ofList

def newlineStep (c : Char) (state : Bool × List Char) : Bool × List Char :=
  if c == '\r' then (if state.1 then (false, state.2) else (false, '\n' :: state.2))
  else (c == '\n', c :: state.2)

/-- Carriage return with line feed, carriage return alone and line feed alone all become a line
feed. -/
def unifyNewlines (cs : List Char) : List Char := (cs.foldr newlineStep (false, [])).2

end Toolsmith.Text
