import Toolsmith.Flag.ValueType
/-!
# Flags

A flag as it is declared: its names, the text of its type, and the scope in which it may be used,
which is one command or all of them.  Every application has five flags from the start.
-/

namespace Toolsmith

/-- A declared flag.  An empty short name is none, an empty default is none. -/
structure Flag where
  long : String
  short : String := ""
  type : String := "string"
  required : Bool := false
  default : String := ""
  help : String := ""
  scope : String := "global"
  deriving DecidableEq, Repr

namespace Flag

def globalScope : String := "global"

/-- The name under which help lists the flags of all scopes. -/
def everyScope : String := "all"

def visibleTo (flag : Flag) (command : String) : Bool :=
  flag.scope = globalScope || flag.scope = command

/-- Whether a key is the long name of the flag, or its short name if it has one. -/
def answersTo (flag : Flag) (key : String) : Bool :=
  key = flag.long || (flag.short ≠ "" && key = flag.short)

def spellingsOf (long short : String) : List String :=
  if short = "" then ["--" ++ long] else ["--" ++ long, "-" ++ short]

def spellings (flag : Flag) : List String := spellingsOf flag.long flag.short

def scopesOverlap (first second : String) : Bool :=
  first = second || first = globalScope || second = globalScope

/-- Why a flag cannot be added beside an older one: their scopes overlap, and the long name or
the short name is taken. -/
def clash? (older flag : Flag) : Option InternalFault :=
  if !scopesOverlap older.scope flag.scope then none
  else if older.long = flag.long then some (.longTaken flag.long older.scope flag.scope)
  else if flag.short ≠ "" ∧ older.short = flag.short then
    some (.shortTaken flag.short flag.long older.long)
  else none

def helpFlag : Flag := { long := "help", short := "h", type := "none", help := "Show help message" }

def verboseFlag : Flag :=
  { long := "verbose", short := "v", type := "none", help := "Enable verbose output" }

def quietFlag : Flag := { long := "quiet", short := "q", type := "none", help := "Suppress output" }

def plainFlag : Flag :=
  { long := "no-color", type := "none", help := "Disable colored output" }

def versionFlag : Flag :=
  { long := "version", short := "V", type := "none", help := "Show version" }

def builtins : List Flag := [helpFlag, verboseFlag, quietFlag, plainFlag, versionFlag]

def shellFlag : Flag :=
  { long := "shell", short := "s", type := "enum:bash:zsh", help := "Shell type (bash, zsh)"
    scope := "completion" }

end Flag

end Toolsmith
