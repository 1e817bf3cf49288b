import Toolsmith.Archive.Stored
import Toolsmith.Artifact.Registrations
import Toolsmith.Artifact.Sources
/-!
# What an artifact consists of

An artifact is an archive with a first line that names the interpreter.  Its members are the
generated modules, a package with the handlers, one module for each command, and the runtime
package.
-/

namespace Toolsmith

/-- The modules of the runtime package, with their paths inside the package. -/
abbrev Runtime := List Archive.Member

/-- A program that can be packed: what it says of itself, its scripts, and its commands with the
sources of their handlers. -/
structure Artifact where
  name : String
  version : String
  description : String
  scripts : Scripts
  commands : List (Compiled × List UInt8)

namespace Artifact

def handlerPackage : String := "_commands"

def packageFile : String := "__init__.py"

def moduleFile (module : String) : String := module ++ ".py"

def inPackage (package file : String) : String := package ++ "/" ++ file

def textMember (path text : String) : Archive.Member := ⟨path, Text.Utf8.encode text⟩

def handlerPath (command : Compiled) : String :=
  inPackage handlerPackage (moduleFile command.module)

def handlers (a : Artifact) : List Archive.Member :=
  textMember (inPackage handlerPackage packageFile) "\"\"\"Command handlers.\"\"\"\n" ::
    a.commands.map fun command => ⟨handlerPath command.1, command.2⟩

/-- What stands in for lone surrogates in the texts of the commands.  The schemas of a project share
their stand-ins. -/
def lone (a : Artifact) : Text.StandIns := (a.commands.head?.map fun c => c.1.schema.lone).getD []

def generated (a : Artifact) : List Archive.Member :=
  [textMember (moduleFile "__main__") (Sources.entryPoint a.name a.version a.description),
    textMember (moduleFile "_completions") (Sources.scripts a.scripts a.lone),
    textMember (moduleFile "_registrations")
      (Registrations.source handlerPackage (a.commands.map Prod.fst))]

def runtimeFiles : List String :=
  ["__init__.py", "exceptions.py", "runtime/__init__.py", "runtime/builtins.py",
    "runtime/commands.py", "runtime/console.py", "runtime/dispatcher.py", "runtime/exit_codes.py",
    "runtime/flags.py", "runtime/log.py", "runtime/validation.py", "version.py"]

/-- The members of the runtime package: one for each of its files that is there, in their order. -/
def runtimeMembers (runtime : Runtime) : List Archive.Member :=
  runtimeFiles.filterMap fun file =>
    (runtime.find? fun member => member.path = file).map fun member =>
      { member with path := inPackage Tool.name file }

def members (runtime : Runtime) (a : Artifact) : List Archive.Member :=
  a.generated ++ a.handlers ++ runtimeMembers runtime

def firstLine : String := "#!/usr/bin/env python3"

def bytes (runtime : Runtime) (a : Artifact) : List UInt8 :=
  Archive.write (Text.Utf8.encode (firstLine ++ "\n")) (a.members runtime)

end Artifact

end Toolsmith
