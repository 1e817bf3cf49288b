import Toolsmith.Completion.Scripts
/-!
# The generated modules of an artifact

The module that an artifact starts with, and the module that holds its completion scripts.  Texts
that are not the tool's own are written as quoted literals; only the first comment of the entry
point shows the name as it is.
-/

namespace Toolsmith.Sources

def entryPointLines (name version description : String) : List String :=
  ["\"\"\"Entry point of " ++ name ++ ". Generated by schemacli; do not edit.\"\"\"",
    "",
    "import sys",
    "",
    "import _completions",
    "import _registrations",
    "from schemacli.runtime.dispatcher import Application",
    "",
    "app = Application(",
    "    name=" ++ Text.Quoted.literal name ++ ",",
    "    version=" ++ Text.Quoted.literal version ++ ",",
    "    description=" ++ Text.Quoted.literal description ++ ",",
    "    completions=\x7b\"bash\": _completions.BASH, \"zsh\": _completions.ZSH\x7d,",
    ")",
    "_registrations.register(app)",
    "sys.exit(app.run(sys.argv[1:]))"]

def entryPoint (name version description : String) : String :=
  Text.join "\n" (entryPointLines name version description) ++ "\n"

def scripts (scripts : Scripts) (lone : Text.StandIns := []) : String :=
  "\"\"\"Shell completion scripts. Generated by schemacli; do not edit.\"\"\"\n\n"
    ++ "BASH = " ++ Text.Quoted.literal scripts.bash lone ++ "\n\n"
    ++ "ZSH = " ++ Text.Quoted.literal scripts.zsh lone ++ "\n"

end Toolsmith.Sources
