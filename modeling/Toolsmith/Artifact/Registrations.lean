import Toolsmith.Schema.Compiler
/-!
# The registrations of an artifact

The source of the module that registers the compiled commands when an artifact starts.  Every
field is written as a quoted literal.  The flags of a command come before it, and a comment with
its name before them.
-/

namespace Toolsmith.Registrations

def header : List String :=
  ["\"\"\"Command registrations. Generated by schemacli; do not edit.\"\"\"",
    "",
    "from schemacli.runtime.commands import LazyHandler",
    "from schemacli.runtime.flags import FlagDefinition",
    "",
    "",
    "def register(app):"]

def truth (b : Bool) : String := if b then "True" else "False"

def flagLine (lone : Text.StandIns) (flag : Flag) : String :=
  let literal (s : String) : String := Text.Quoted.literal s lone
  let fields :=
    [literal flag.long, literal flag.short, literal flag.type, truth flag.required,
      literal flag.default, literal flag.help, literal flag.scope]
  "    app.flags.register(FlagDefinition(" ++ Text.join ", " fields ++ "))"

def handlerOf (package : String) (command : Compiled) : Deferred :=
  ⟨command.schema.name, package ++ "." ++ command.module, conventionalName command.schema.name⟩

def commandLine (package : String) (command : Compiled) : String :=
  let schema := command.schema
  let fields :=
    [Text.Quoted.literal schema.name, Text.Quoted.literal schema.description schema.lone,
      (handlerOf package command).text]
  "    app.commands.register(" ++ Text.join ", " fields ++ ")"

/-- The lines of a command: its name as a comment, its flags, and the command. -/
def commandLines (package : String) (command : Compiled) : List String :=
  ("    # " ++ command.schema.name) :: command.flags.map (flagLine command.schema.lone)
    ++ [commandLine package command]

def lines (package : String) (commands : List Compiled) : List String :=
  header ++ (if commands.isEmpty then ["    pass"] else commands.flatMap (commandLines package))

def source (package : String) (commands : List Compiled) : String :=
  Text.join "\n" (lines package commands) ++ "\n"

end Toolsmith.Registrations
