import Toolsmith.Table
import Toolsmith.Files.Path
import Toolsmith.Text.Utf8
/-!
# Files

The files are a finite tree: a file holds bytes, a directory holds named entries in the order in
which the system lists them.  Every operation is a function of the tree.  One that changes it
gives the tree as it is afterwards, also when it fails half-way.
-/

namespace Toolsmith

inductive Node
  | file (bytes : List UInt8) (executable : Bool)
  | directory (entries : List (String × Node))
  deriving Repr, Inhabited

/-- A tree of files with the names that lead from its root to the current directory. -/
structure Files where
  root : Node
  here : List String
  deriving Repr

namespace Files

/-! ## 1. Refusals -/

inductive Reason
  | missing
  | present
  | notDirectory
  | isDirectory
  | nameTooLong
  deriving DecidableEq, Repr

/-- A failed operation on files: refused by the system for a path, never asked for because the
path holds a null character, or given up because too many directories are missing. -/
inductive Fault
  | refused (reason : Reason) (path : String)
  | nullCharacter
  | tooManyMissing
  deriving DecidableEq, Repr

def Reason.number : Reason → Nat
  | .missing => 2
  | .present => 17
  | .notDirectory => 20
  | .isDirectory => 21
  | .nameTooLong => 36

def Reason.text : Reason → String
  | .missing => "No such file or directory"
  | .present => "File exists"
  | .notDirectory => "Not a directory"
  | .isDirectory => "Is a directory"
  | .nameTooLong => "File name too long"

def Reason.label : Reason → String
  | .missing => "FileNotFoundError"
  | .present => "FileExistsError"
  | .notDirectory => "NotADirectoryError"
  | .isDirectory => "IsADirectoryError"
  | .nameTooLong => "OSError"

def Fault.label : Fault → String
  | .refused reason _ => reason.label
  | .nullCharacter => "ValueError"
  | .tooManyMissing => "RecursionError"

def Fault.text : Fault → String
  | .refused reason path =>
    s!"[Errno {reason.number}] {reason.text}: " ++ Text.Quoted.literal path
  | .nullCharacter => "embedded null byte"
  | .tooManyMissing => "maximum recursion depth exceeded while calling a Python object"

/-! ## 2. Finding -/

def nodeAt? : Node → List String → Option Node
  | node, [] => some node
  | .file _ _, _ :: _ => none
  | .directory entries, name :: names =>
    match entries.lookup name with
    | some node => nodeAt? node names
    | none => none

def nameLimit : Nat := 255

/-- The most bytes that a whole path may have, and one. -/
def pathLimit : Nat := 4096

/-- Follows names from a directory.  All but the last must be there; the answer is the place and
what is found there, if anything. -/
def follow (root : Node) :
    List String → List String → Except Reason (List String × Option Node)
  | [], here =>
    match nodeAt? root here with
    | some node => .ok (here, some node)
    | none => .error .missing
  | name :: names, here =>
    match nodeAt? root here with
    | none => .error .missing
    | some (.file _ _) => .error .notDirectory
    | some (.directory entries) =>
      if name.utf8ByteSize > nameLimit then .error .nameTooLong
      else if name = "." then follow root names here
      else if name = ".." then follow root names here.dropLast
      else
        match entries.lookup name, names with
        | none, [] => .ok (here ++ [name], none)
        | none, _ => .error .missing
        | some _, _ => follow root names (here ++ [name])

/-- The names on a path as the system reads it: a slash at the end asks for a directory. -/
def namesOf (path : String) : List String :=
  let names := (Text.split '/' path).filter (· ≠ "")
  if Text.endsWith path "/" then names ++ ["."] else names

def locate (files : Files) (path : String) : Except Fault (List String × Option Node) :=
  if path.toList.contains '\x00' then .error .nullCharacter
  else if path = "" then .error (.refused .missing path)
  else if path.utf8ByteSize ≥ pathLimit then .error (.refused .nameTooLong path)
  else
    let start := if Text.startsWith path "/" then [] else files.here
    match follow files.root (namesOf path) start with
    | .ok found => .ok found
    | .error reason => .error (.refused reason path)

/-- The path from the root that a text denotes, seen from a directory.  No path holds a null
character. -/
def resolvePath (here : List String) (text : String) : Except Fault Path :=
  if text.toList.contains '\x00' then .error .nullCharacter
  else .ok (Path.ofNames ((Path.ofText text).absolute here))

/-- What a path denotes: a node, or nothing when the way to it ends early.  Other refusals
count. -/
def look (files : Files) (path : String) : Except Fault (Option Node) :=
  match files.locate path with
  | .ok (_, node) => .ok node
  | .error (.refused .missing _) => .ok none
  | .error (.refused .notDirectory _) => .ok none
  | .error .nullCharacter => .ok none
  | .error fault => .error fault

def has (files : Files) (path : String) : Bool :=
  match files.locate path with
  | .ok (_, some _) => true
  | _ => false

def isDirectory (files : Files) (path : Path) : Except Fault Bool := do
  match ← files.look path.text with
  | some (.directory _) => return true
  | _ => return false

def isFile (files : Files) (path : Path) : Except Fault Bool := do
  match ← files.look path.text with
  | some (.file _ _) => return true
  | _ => return false

/-- The entries of a directory in the order of the system's list. -/
def entries (files : Files) (path : Path) : List (String × Node) :=
  match files.locate path.text with
  | .ok (_, some (.directory entries)) => entries
  | _ => []

def read (files : Files) (path : Path) : Except Fault (List UInt8) := do
  match ← files.locate path.text with
  | (_, some (.file bytes _)) => return bytes
  | (_, some (.directory _)) => throw (.refused .isDirectory path.text)
  | (_, none) => throw (.refused .missing path.text)

/-! ## 3. Changing -/

/-- A node put where names lead to.  The directories on the way are those that are there. -/
def putNode (new : Node) : List String → Node → Node
  | [], _ => new
  | [name], .directory entries => .directory (Table.putRow name new entries)
  | name :: names, .directory entries =>
    match entries.lookup name with
    | some node => .directory (Table.putRow name (putNode new names node) entries)
    | none => .directory entries
  | _ :: _, .file bytes executable => .file bytes executable

def put (files : Files) (names : List String) (new : Node) : Files :=
  { files with root := putNode new names files.root }

/-- Makes one directory, in a directory that is there. -/
def makeDirectory (files : Files) (path : Path) : Except Fault Files := do
  match ← files.locate path.text with
  | (_, some _) => throw (.refused .present path.text)
  | (names, none) => return files.put names (.directory [])

/-- The refusal to make a directory stands unless the path denotes a directory already. -/
def unlessDirectory (files : Files) (path : Path) (fault : Fault) : Option Fault :=
  match files.isDirectory path with
  | .ok true => none
  | .ok false => some fault
  | .error other => some other

/-- The most directories, one inside the other, that are made at once. -/
def missingLimit : Nat := 984

/-- Makes the directory of the names given last one first, and those around it that are missing,
at most as many as the first number.  The outermost one is made first, so that with too many missing
none is made. -/
def makeDirectoriesFrom (slashes : Nat) : Nat → List String → Files → Files × Option Fault
  | 0, _, files => (files, some .tooManyMissing)
  | left + 1, reversed, files =>
    let path : Path := ⟨slashes, reversed.reverse⟩
    match files.makeDirectory path with
    | .ok files => (files, none)
    | .error (.refused .missing text) =>
      match reversed with
      | [] => (files, some (.refused .missing text))
      | _ :: outer =>
        match makeDirectoriesFrom slashes left outer files with
        | (files, some fault) => (files, some fault)
        | (files, none) =>
          match files.makeDirectory path with
          | .ok files => (files, none)
          | .error (.refused .missing text) => (files, some (.refused .missing text))
          | .error .nullCharacter => (files, some .nullCharacter)
          | .error fault => (files, files.unlessDirectory path fault)
    | .error .nullCharacter => (files, some .nullCharacter)
    | .error fault => (files, files.unlessDirectory path fault)

/-- Makes a directory and those around it that are missing.  A directory that is there already is
no fault. -/
def makeDirectories (files : Files) (path : Path) : Files × Option Fault :=
  makeDirectoriesFrom path.slashes missingLimit path.names.reverse files

def write (files : Files) (path : Path) (bytes : List UInt8) (executable : Bool) :
    Except Fault Files := do
  match ← files.locate path.text with
  | (_, some (.directory _)) => throw (.refused .isDirectory path.text)
  | (names, _) => return files.put names (.file bytes executable)

/-- Opens a file for adding at its end: one that is not there is made, empty.  The place is kept
for the additions. -/
def openEnd (files : Files) (path : Path) : Except Fault (Files × List String) := do
  match ← files.locate path.text with
  | (_, some (.directory _)) => throw (.refused .isDirectory path.text)
  | (names, some (.file _ _)) => return (files, names)
  | (names, none) => return (files.put names (.file [] false), names)

def append (files : Files) (names : List String) (text : String) : Files :=
  match nodeAt? files.root names with
  | some (.file bytes executable) =>
    files.put names (.file (bytes ++ Text.Utf8.encode text) executable)
  | _ => files

end Files

end Toolsmith
