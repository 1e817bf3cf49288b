import Toolsmith.Flag.Registry
import Toolsmith.Text.Blank
/-!
# Help on flags

One line per flag: how it is typed, what its value is, and what it does, in two columns where the
first is short enough.  A required flag says so, any other flag shows its default.
-/

namespace Toolsmith

def helpColumn : Nat := 22

def Definition.usage (d : Definition) : String :=
  let short := if d.flag.short = "" then "" else ", -" ++ d.flag.short
  let value := if d.type.placeholder = "" then "" else " " ++ d.type.placeholder
  "  --" ++ d.flag.long ++ short ++ value

def Definition.helpLine (d : Definition) : String :=
  let line := Text.trimEnd (Text.padEnd helpColumn d.usage ++ " " ++ d.flag.help)
  if d.flag.required then line ++ " (required)"
  else if d.flag.default ≠ "" then line ++ " [default: " ++ d.flag.default ++ "]"
  else line

/-- The help lines of the flags that a command may use, or of all flags. -/
def Registry.help (registry : Registry) (scope : String := Flag.globalScope) : String :=
  Text.join "\n"
    ((registry.definitions.filter fun d => scope = Flag.everyScope || d.flag.visibleTo scope).map
      Definition.helpLine)

end Toolsmith
