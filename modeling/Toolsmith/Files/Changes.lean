import Toolsmith.Files.Tree
/-!
# Changes between trees of files

What has to be done to one tree of files so that it becomes another, in an order in which it can be
done: a directory comes before what lies in it.  What only the first tree has is left alone.
-/

namespace Toolsmith.Files

inductive Change
  | makeDirectory (place : List String)
  | writeFile (place : List String) (bytes : List UInt8) (executable : Bool)
  deriving Repr

/-- The entries of a directory; a file or nothing has none. -/
def entriesOf : Option Node → List (String × Node)
  | some (.directory entries) => entries
  | _ => []

def isThere : Option Node → Bool
  | some (.directory _) => true
  | _ => false

def isSame (bytes : List UInt8) (executable : Bool) : Option Node → Bool
  | some (.file oldBytes oldExecutable) => oldBytes == bytes && oldExecutable == executable
  | _ => false

mutual

def changesAt (place : List String) (old : Option Node) : Node → List Change
  | .file bytes executable =>
    if isSame bytes executable old then [] else [.writeFile place bytes executable]
  | .directory entries =>
    (if isThere old then [] else [.makeDirectory place])
      ++ changesAmong place (entriesOf old) entries

def changesAmong (place : List String) (old : List (String × Node)) :
    List (String × Node) → List Change
  | [] => []
  | (name, node) :: entries =>
    changesAt (place ++ [name]) (old.lookup name) node ++ changesAmong place old entries

end

/-- The changes that lead from some files to others. -/
def changes (before after : Files) : List Change := changesAt [] (some before.root) after.root

end Toolsmith.Files
