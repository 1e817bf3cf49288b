import Toolsmith.Artifact.Members
/-!
# The start of an artifact

What the generated modules do when an artifact starts: they make an application, and register for
each command first its flags and then the command with its deferred handler.
-/

namespace Toolsmith

namespace Registrations

def performFlags (flags : List Flag) (app : Application) : Except InternalFault Application := do
  let registry ← flags.foldlM Registry.register app.flags
  return { app with flags := registry }

def commandOf (package : String) (command : Compiled) : Command Task :=
  ⟨command.schema.name, command.schema.description,
    some ⟨none, .deferred (handlerOf package command)⟩⟩

/-- Registers a command, its flags first. -/
def performCommand (package : String) (app : Application) (command : Compiled) :
    Except InternalFault Application := do
  let app ← performFlags command.flags app
  let commands ← app.commands.register (commandOf package command)
  return { app with commands }

def perform (package : String) (commands : List Compiled) (app : Application) :
    Except InternalFault Application :=
  commands.foldlM (performCommand package) app

end Registrations

def Artifact.application (a : Artifact) (colour : Bool) : Except InternalFault Application :=
  Registrations.perform handlerPackage (a.commands.map Prod.fst)
    (Application.fresh a.name a.version a.description a.scripts.table colour)

end Toolsmith
