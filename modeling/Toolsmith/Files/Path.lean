import Toolsmith.Text.Segments
/-!
# Paths

A path is where it starts and the names on it.  Parts that lead nowhere, an empty name or a
single dot, are dropped when a path is read; two dots stay, since what they lead to depends on
the files.
-/

namespace Toolsmith

/-- A path: the number of slashes that it starts with, none for a path from the current
directory, and its names. -/
structure Path where
  slashes : Nat
  names : List String
  deriving DecidableEq, Repr

namespace Path

/-- The slashes that count at the start of a path: exactly two are kept, more are one. -/
def leadingSlashes (s : String) : Nat :=
  let n := (s.toList.takeWhile (· = '/')).length
  if n ≤ 2 then n else 1

def ofText (s : String) : Path :=
  ⟨leadingSlashes s, (Text.split '/' s).filter fun name => name ≠ "" && name ≠ "."⟩

/-- The text of a path; the current directory is a dot. -/
def text (p : Path) : String :=
  if p.slashes = 0 ∧ p.names = [] then "."
  else String.ofList (List.replicate p.slashes '/') ++ Text.join "/" p.names

def child (p : Path) (name : String) : Path := { p with names := p.names ++ [name] }

/-- The directory that a path lies in; a start has itself. -/
def parent (p : Path) : Path := { p with names := p.names.dropLast }

def name (p : Path) : String := p.names.getLast?.getD ""

/-- Names without their dots: two dots take the name before them away. -/
def straighten (names : List String) : List String :=
  (names.foldl (fun done name =>
    if name = "" ∨ name = "." then done
    else if name = ".." then done.tail
    else name :: done) []).reverse

/-- The names from the root to what a path denotes, seen from a directory, when no file stands in
the way. -/
def absolute (here : List String) (p : Path) : List String :=
  straighten (if p.slashes = 0 then here ++ p.names else p.names)

def ofNames (names : List String) : Path := ⟨1, names⟩

end Path

end Toolsmith
