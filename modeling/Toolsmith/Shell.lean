import Toolsmith.Table
import Toolsmith.Text.Segments
/-!
# The calling shell

Which shell a completion script is for: the one that says so by a variable of its own, else the
one that is set for the user, else bash.
-/

namespace Toolsmith.Shell

def names : List String := ["bash", "zsh"]

def baseName (path : String) : String := (Text.split '/' path).getLast?.getD ""

def isSet (environment : Table String) (name : String) : Bool :=
  match environment.get? name with
  | some value => value ≠ ""
  | none => false

def detect (environment : Table String) : String :=
  if isSet environment "ZSH_VERSION" then "zsh"
  else if isSet environment "BASH_VERSION" then "bash"
  else
    let shell := baseName ((environment.get? "SHELL").getD "")
    if names.contains shell then shell else "bash"

end Toolsmith.Shell
