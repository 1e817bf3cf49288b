import Toolsmith.World
import Toolsmith.Surroundings
import Toolsmith.Flag.Help
import Toolsmith.Flag.Reading
/-!
# Applications

An application is a name, a version and a description, the flags and commands that have been
registered with it, and its completion scripts.  It also keeps what belongs to the current run:
the command, whether the run is quiet, and whether its messages are coloured.  The help texts are
functions of the application.
-/

namespace Toolsmith

/-! ## 1. Applications and their built-in commands -/

inductive Builtin
  | help
  | version
  | commands
  | completion
  deriving DecidableEq, Repr

namespace Builtin

def all : List Builtin := [.help, .version, .commands, .completion]

def name : Builtin → String
  | .help => "help"
  | .version => "version"
  | .commands => "commands"
  | .completion => "completion"

def summary : Builtin → String
  | .help => "Show help information"
  | .version => "Show version information"
  | .commands => "List available commands"
  | .completion => "Generate shell completion script"

end Builtin

/-- What a command does: a built-in task, a handler, or a handler that is looked for first. -/
inductive Task
  | builtin (which : Builtin)
  | handler (handler : Handler)
  | deferred (deferred : Deferred)

structure Application where
  name : String
  version : String
  description : String
  completions : Table String
  flags : Registry
  commands : Commands Task
  /-- The command that the current run is about. -/
  current : Option String
  quiet : Bool
  colour : Bool

namespace Application

def defaultName : String := "cli"

def defaultVersion : String := "1.0.0"

def defaultDescription : String := "A schema-driven CLI"

/-- What the conventional names of the built-in commands denote. -/
def conventions : Table (Binding Task) :=
  .ofList (Builtin.all.map fun b =>
    (conventionalName b.name, .callable ⟨some (conventionalName b.name), .builtin b⟩))

@[simp] theorem get?_conventions (b : Builtin) :
    conventions.get? (conventionalName b.name) =
      some (.callable ⟨some (conventionalName b.name), .builtin b⟩) := by
  cases b <;> rfl

def builtinCommands : Commands Task :=
  ⟨Builtin.all.map fun b => ⟨b.name, b.summary, none⟩, conventions⟩

def fresh (name version description : String) (completions : Table String) (colour : Bool) :
    Application :=
  { name, version, description, completions
    flags := .withShell
    commands := builtinCommands
    current := none
    quiet := false
    colour }

/-! ## 2. Help -/

def versionText (app : Application) : String := app.name ++ " version " ++ app.version

def commandColumn : Nat := 20

def commandLine (command : Command Task) : String :=
  Text.trimEnd ("  " ++ Text.padEnd commandColumn command.name ++ " " ++ command.help)

def commandTable (app : Application) : String :=
  Text.join "\n" (app.commands.sorted.map commandLine)

def globalHelp (app : Application) : String :=
  let name := app.name
  Text.join "\n"
    [name ++ " - " ++ app.description,
      "",
      "Usage:",
      "  " ++ name ++ " <command> [options] [arguments]",
      "  " ++ name ++ " [global-options]",
      "",
      "Commands:",
      app.commandTable,
      "",
      "Global Options:",
      app.flags.help Flag.globalScope,
      "",
      "Run '" ++ name ++ " <command> --help' for command-specific help.",
      "",
      "Enable tab completion:",
      "  eval \"$(" ++ name ++ " completion)\"          # bash (add to ~/.bashrc)",
      "  eval \"$(" ++ name ++ " completion -s zsh)\"   # zsh  (add to ~/.zshrc)"]

def commandHelp (app : Application) (command : String) : String :=
  let help := app.commands.help command
  let summary := if help = "" then "No description available" else help
  Text.join "\n"
    [app.name ++ " " ++ command ++ " - " ++ summary,
      "",
      "Usage:",
      "  " ++ app.name ++ " " ++ command ++ " [options] [arguments]",
      "",
      "Options:",
      app.flags.help command]

/-- The help on a topic: on the command of that name if there is one, else on the whole. -/
def helpFor (app : Application) (topic : String) : String :=
  if topic ≠ "" && app.commands.has topic then app.commandHelp topic else app.globalHelp

end Application

end Toolsmith
