import Toolsmith.Tool
import Toolsmith.Text.Segments
/-!
# The options of the builder

The command line of the builder has options of its own and names one of two jobs, which have
options of theirs.  Here is what can be written, and the texts that explain it.
-/

namespace Toolsmith.Builder

inductive Wish
  | help
  | version
  | verbose
  | plain
  | output
  | name
  | appVersion
  | description
  | installer
  deriving DecidableEq, Repr

/-- An option: its spellings, what it asks for, and whether it takes a value. -/
structure Opt where
  spellings : List String
  wish : Wish
  takesValue : Bool := false
  deriving DecidableEq, Repr

def Opt.text (opt : Opt) : String := Text.join "/" opt.spellings

inductive Job
  | build
  | doctor
  deriving DecidableEq, Repr

namespace Job

def all : List Job := [.build, .doctor]

def name : Job → String
  | .build => "build"
  | .doctor => "doctor"

def ofName? (name : String) : Option Job := all.find? fun job => job.name = name

end Job

/-- A place where options are read: before the name of the job, or behind it. -/
inductive Scope
  | tool
  | job (which : Job)
  deriving DecidableEq, Repr

namespace Scope

def helpOption : Opt := { spellings := ["-h", "--help"], wish := .help }

def options : Scope → List Opt
  | .tool =>
    [helpOption,
      { spellings := ["-V", "--version"], wish := .version },
      { spellings := ["-v", "--verbose"], wish := .verbose },
      { spellings := ["--no-color"], wish := .plain }]
  | .job .build =>
    [helpOption,
      { spellings := ["-o", "--output"], wish := .output, takesValue := true },
      { spellings := ["-n", "--name"], wish := .name, takesValue := true },
      { spellings := ["--app-version"], wish := .appVersion, takesValue := true },
      { spellings := ["-d", "--description"], wish := .description, takesValue := true },
      { spellings := ["-e", "--installer"], wish := .installer }]
  | .job .doctor => [helpOption]

def program : Scope → String
  | .tool => Tool.name
  | .job which => Tool.name ++ " " ++ which.name

def usage : Scope → List String
  | .tool => ["usage: schemacli [-h] [-V] [-v] [--no-color] COMMAND ..."]
  | .job .build =>
    ["usage: schemacli build [-h] [-o OUTPUT_DIR] [-n NAME]",
      "                       [--app-version APP_VERSION] [-d DESCRIPTION] [-e]",
      "                       [project]"]
  | .job .doctor => ["usage: schemacli doctor [-h]"]

def explanation : Scope → List String
  | .tool =>
    ["",
      "Compile command schemas into a self-contained CLI.",
      "",
      "positional arguments:",
      "  COMMAND",
      "    build        Build an executable artifact from a project directory.",
      "    doctor       Run environment diagnostics.",
      "",
      "options:",
      "  -h, --help     show this help message and exit",
      "  -V, --version  show program's version number and exit",
      "  -v, --verbose  Show debug logging.",
      "  --no-color     Disable colored output."]
  | .job .build =>
    ["",
      "positional arguments:",
      "  project               Project directory containing commands/ (default:",
      "                        current directory).",
      "",
      "options:",
      "  -h, --help            show this help message and exit",
      "  -o OUTPUT_DIR, --output OUTPUT_DIR",
      "                        Output directory (default: PROJECT/dist).",
      "  -n NAME, --name NAME  Program name (default: the project directory name).",
      "  --app-version APP_VERSION",
      "                        Version reported by the artifact (default: 1.0.0).",
      "  -d DESCRIPTION, --description DESCRIPTION",
      "                        One-line description shown in the artifact's help.",
      "  -e, --installer       Also write a self-extracting sh installer."]
  | .job .doctor =>
    ["",
      "options:",
      "  -h, --help  show this help message and exit"]

def joined (lines : List String) : String := String.join (lines.map (· ++ "\n"))

def usageText (scope : Scope) : String := joined scope.usage

def helpText (scope : Scope) : String := joined (scope.usage ++ scope.explanation)

/-- The spellings in a scope, each with its option, in the order of declaration. -/
def spelled (scope : Scope) : List (String × Opt) :=
  scope.options.flatMap fun opt => opt.spellings.map fun spelling => (spelling, opt)

def option? (scope : Scope) (spelling : String) : Option Opt := scope.spelled.lookup spelling

end Scope

end Toolsmith.Builder
