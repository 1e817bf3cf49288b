import Toolsmith.Completion.Bash
import Toolsmith.Completion.Zsh
/-!
# The completion scripts

The scripts for all shells, under the names of the shells.
-/

namespace Toolsmith

structure Scripts where
  bash : String
  zsh : String
  deriving DecidableEq, Repr

namespace Scripts

def ofCompletion (c : Completion) : Scripts :=
  ⟨Completion.Bash.script c, Completion.Zsh.script c⟩

def ofCatalogue (c : Catalogue) (program : String) : Except InternalFault Scripts :=
  (Completion.ofCatalogue c program).map ofCompletion

def table (scripts : Scripts) : Table String :=
  .ofList [("bash", scripts.bash), ("zsh", scripts.zsh)]

end Scripts

end Toolsmith
