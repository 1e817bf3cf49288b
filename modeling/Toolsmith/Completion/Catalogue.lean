import Toolsmith.Flag.Basic
import Toolsmith.Application.Basic
/-!
# The catalogue for completion

What completion has to know about the commands of an application and their flags, collected while
the schemas are compiled.  The facts on a flag are kept under the name of its command, a colon
and its own long name.
-/

namespace Toolsmith

structure Catalogue where
  commands : List String
  descriptions : Table String
  /-- The spellings of the flags of each command. -/
  commandFlags : Table (List String)
  flagTypes : Table String
  flagShorts : Table String
  flagHelp : Table String
  globalFlags : List Flag
  deriving DecidableEq, Repr

namespace Catalogue

/-- The catalogue without commands; the global flags are the built-in ones. -/
def empty : Catalogue :=
  ⟨[], .empty, .empty, .empty, .empty, .empty, Flag.builtins⟩

def flagKey (command long : String) : String := command ++ ":" ++ long

def addCommand (c : Catalogue) (name description : String) : Catalogue :=
  { c with
    commands := c.commands ++ [name]
    descriptions := c.descriptions.put name description
    commandFlags := if c.commandFlags.has name then c.commandFlags else c.commandFlags.put name [] }

def addFlag (c : Catalogue) (command : String) (flag : Flag) : Catalogue :=
  let key := flagKey command flag.long
  let known := (c.commandFlags.get? command).getD []
  { c with
    commandFlags := c.commandFlags.put command (known ++ flag.spellings)
    flagTypes := c.flagTypes.put key flag.type
    flagHelp := c.flagHelp.put key flag.help
    flagShorts := if flag.short = "" then c.flagShorts else c.flagShorts.put key flag.short }

def flagNames (c : Catalogue) (command : String) : List String :=
  c.flagTypes.keys.filterMap fun key => Text.dropStart? key (flagKey command "")

def withBuiltins : Catalogue :=
  (Builtin.all.foldl (fun c b => c.addCommand b.name b.summary) empty).addFlag
    Flag.shellFlag.scope Flag.shellFlag

end Catalogue

end Toolsmith
