import Toolsmith.Schema.Compiler
import Toolsmith.Log
/-!
# Projects

A project has a directory `commands`, and in it a directory for each command with its schema and
its handler.  All of them are found before the first is visited.  They are visited in the order of
their names by code point; one without a schema or without a handler is left out with a warning.
The first schema that is refused ends the visit.
-/

namespace Toolsmith

def commandsDirectory : String := "commands"

def schemaFile : String := "schema.json"

def handlerFile : String := "main.py"

abbrev Record := Level × String

/-- What a visit leads to: the compiler afterwards, the records in order, and the failure that
ended the visit if there was one. -/
structure Visit where
  compiler : Compiler
  records : List Record
  failure : Option Failure

namespace Compiler

def skip (compiler : Compiler) (directory reason : String) : Visit :=
  { compiler := { compiler with skipped := compiler.skipped ++ [(directory, reason)] }
    records := [(.warning, "Skipping command directory '" ++ directory ++ "': " ++ reason)]
    failure := none }

def stoppedBy (compiler : Compiler) (fault : Files.Fault) : Visit :=
  ⟨compiler, [], some (.accident (.files fault))⟩

/-- The stand-ins for the lone surrogates in the schemas of some directories, as far as these can
be read. -/
def standInsFor (files : Files) (directories : List Path) : Text.StandIns :=
  Json.standIns (directories.filterMap fun directory => do
    let bytes ← (files.read (directory.child schemaFile)).toOption
    (Text.Utf8.decode bytes).toOption)

def compileIn (compiler : Compiler) (files : Files) (lone : Text.StandIns) (directory : Path) :
    Visit :=
  match Schema.load files (directory.child schemaFile) lone with
  | .error failure => ⟨compiler, [], some failure⟩
  | .ok schema =>
    match compiler.compile schema (directory.child handlerFile) with
    | (compiler, .error fault) => ⟨compiler, [], some (.schema fault)⟩
    | (compiler, .ok command) =>
      let count := toString command.flags.length
      ⟨compiler,
        [(.debug, "Compiled command '" ++ schema.name ++ "' with " ++ count ++ " flag(s)")], none⟩

def visit (compiler : Compiler) (files : Files) (lone : Text.StandIns) (directory : Path) : Visit :=
  match files.isFile (directory.child schemaFile) with
  | .error fault => compiler.stoppedBy fault
  | .ok false => compiler.skip directory.name ("no " ++ schemaFile)
  | .ok true =>
    match files.isFile (directory.child handlerFile) with
    | .error fault => compiler.stoppedBy fault
    | .ok false => compiler.skip directory.name ("no " ++ handlerFile)
    | .ok true => compiler.compileIn files lone directory

/-- Visits directories in order, up to the first failure. -/
def visitAll (files : Files) (lone : Text.StandIns) : List Path → Compiler → Visit
  | [], compiler => ⟨compiler, [], none⟩
  | directory :: directories, compiler =>
    let first := compiler.visit files lone directory
    match first.failure with
    | some _ => first
    | none =>
      let rest := visitAll files lone directories first.compiler
      { rest with records := first.records ++ rest.records }

/-- Those of some names that denote directories inside a directory.  Every name is looked at, and
the first that cannot be looked at is a fault. -/
def directoriesAmong (files : Files) (commands : Path) :
    List String → Except Files.Fault (List String)
  | [] => .ok []
  | name :: names => do
    let isOne ← files.isDirectory (commands.child name)
    let others ← directoriesAmong files commands names
    return if isOne then name :: others else others

/-- The directories inside a directory, in the order of their names by code point. -/
def directoriesIn (files : Files) (commands : Path) : Except Files.Fault (List Path) := do
  let names ← directoriesAmong files commands ((files.entries commands).map Prod.fst)
  return (names.mergeSort fun a b => decide (a ≤ b)).map commands.child

def compileProject (compiler : Compiler) (files : Files) (project : Path) : Visit :=
  let commands := project.child commandsDirectory
  match files.isDirectory commands with
  | .error fault => compiler.stoppedBy fault
  | .ok false => ⟨compiler, [], some (.schema (.noCommandsDirectory project.text))⟩
  | .ok true =>
    match directoriesIn files commands with
    | .error fault => compiler.stoppedBy fault
    | .ok directories => visitAll files (standInsFor files directories) directories compiler

end Compiler

end Toolsmith
