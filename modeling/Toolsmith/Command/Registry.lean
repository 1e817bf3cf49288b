import Toolsmith.Failure
/-!
# The command registry

The registry holds the commands of an application.  The first registration of a name stands.  A
command without a handler of its own has the one that is found under its conventional name:
`cmd_` and the name of the command, with underscores for dashes.  Commands are listed in the
order of their names by code point.
-/

namespace Toolsmith

def conventionalName (command : String) : String := "cmd_" ++ Text.replaceChar '-' '_' command

/-- A handler, with the name that it carries if it has one. -/
structure Callable (H : Type) where
  label : Option String
  handler : H
  deriving Repr

/-- What a name denotes: a handler, or something that cannot be called. -/
inductive Binding (H : Type)
  | callable (c : Callable H)
  | constant
  deriving Repr

def Binding.callable? {H : Type} : Binding H → Option (Callable H)
  | .callable c => some c
  | .constant => none

structure Command (H : Type) where
  name : String
  help : String
  handler : Option (Callable H)
  deriving Repr

/-- The name of a command's handler: the one that the handler carries, else the conventional
one. -/
def Command.handlerName {H : Type} (command : Command H) : String :=
  (command.handler.bind Callable.label).getD (conventionalName command.name)

/-- The commands in the order of their registration, and what conventional names denote. -/
structure Commands (H : Type) where
  registered : List (Command H)
  conventions : Table (Binding H)
  deriving Repr

namespace Commands

variable {H : Type}

def empty (conventions : Table (Binding H)) : Commands H := ⟨[], conventions⟩

def find? (commands : Commands H) (name : String) : Option (Command H) :=
  commands.registered.find? fun command => command.name = name

def has (commands : Commands H) (name : String) : Bool := (commands.find? name).isSome

def register (commands : Commands H) (command : Command H) : Except InternalFault (Commands H) :=
  if commands.has command.name then .error (.commandTaken command.name)
  else .ok { commands with registered := commands.registered ++ [command] }

def help (commands : Commands H) (name : String) : String :=
  ((commands.find? name).map Command.help).getD ""

/-- The handler of a command: its own, else the one under its conventional name. -/
def handler? (commands : Commands H) (name : String) : Option (Callable H) := do
  let command ← commands.find? name
  match command.handler with
  | some handler => some handler
  | none => (commands.conventions.get? (conventionalName name)).bind Binding.callable?

/-- The names of the commands, by code point. -/
def names (commands : Commands H) : List String :=
  (commands.registered.map Command.name).mergeSort fun a b => decide (a ≤ b)

def sorted (commands : Commands H) : List (Command H) := commands.names.filterMap commands.find?

end Commands

end Toolsmith
