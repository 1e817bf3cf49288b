import Toolsmith.Artifact.Installer
import Toolsmith.Artifact.Members
import Toolsmith.Schema.Project
import Toolsmith.World
/-!
# Builds

A build compiles a project and packs it.  All that can be wrong with the project is found out
before anything is written: only then are the output directory, the artifact and the installer
made.
-/

namespace Toolsmith

/-- Where the output goes: into the project, into a directory, or nowhere, if another place was
asked for but none was named. -/
inductive Destination
  | inProject
  | directory (name : String)
  | nowhere
  deriving DecidableEq, Repr

/-- What is to be built: the project, where the output goes, the name of the program if it is given,
what the program says of itself, and whether an installer is wanted too. -/
structure Order where
  project : String
  output : Destination := .inProject
  name : Option String := none
  version : String := Application.defaultVersion
  description : String := Application.defaultDescription
  installer : Bool := false
  deriving DecidableEq, Repr

structure Product where
  path : Path
  size : Nat
  deriving DecidableEq, Repr

structure Built where
  name : String
  version : String
  artifact : Product
  /-- The members of the artifact. -/
  members : List Archive.Member
  commands : List String
  skipped : List (String × String)
  installer : Option Product
  deriving DecidableEq, Repr

namespace Build

def outputDirectory : String := "dist"

def accident (fault : Files.Fault) : Failure := .accident (.files fault)

/-- The project of an order, by its place from the root. -/
def projectOf (files : Files) (order : Order) : Except Failure Path :=
  match Files.resolvePath files.here order.project with
  | .error fault => .error (accident fault)
  | .ok project =>
    match files.isDirectory project with
    | .error fault => .error (accident fault)
    | .ok false => .error (.schema (.noProject project.text))
    | .ok true => .ok project

/-- The name of the program: the one that the order gives, else that of the project. -/
def nameOf (order : Order) (project : Path) : Except Failure String :=
  let name :=
    match order.name with
    | some name => if name = "" then project.name else name
    | none => project.name
  if Check.isName name then .ok name else .error (.schema (.badProgramName name))

def outputOf (order : Order) (project : Path) : Except Failure Path :=
  match order.output with
  | .inProject => .ok (project.child outputDirectory)
  | .directory name => .ok (Path.ofText name)
  | .nowhere => .error (.accident .notAPath)

structure Plan where
  output : Path
  artifact : Artifact
  skipped : List (String × String)

def withHandler (files : Files) (command : Compiled) : Except Failure (Compiled × List UInt8) :=
  match files.read command.handler with
  | .ok bytes => .ok (command, bytes)
  | .error fault => .error (accident fault)

/-- Finds out all that a build needs.  The files are only read; the records go to the log. -/
def plan (files : Files) (order : Order) : List Record × Except Failure Plan :=
  let start := do
    let project ← projectOf files order
    let name ← nameOf order project
    let output ← outputOf order project
    return (project, name, output)
  match start with
  | .error failure => ([], .error failure)
  | .ok (project, name, output) =>
    let visit := Compiler.fresh.compileProject files project
    let outcome : Except Failure Plan :=
      match visit.failure with
      | some failure => .error failure
      | none =>
        match Scripts.ofCatalogue visit.compiler.catalogue name with
        | .error fault => .error (.internal fault)
        | .ok scripts => do
          let commands ← visit.compiler.commands.mapM (withHandler files)
          return {
            output
            artifact :=
              { name, version := order.version, description := order.description
                scripts, commands }
            skipped := visit.compiler.skipped }
    (visit.records, outcome)

/-- The first module whose file would have too long a name. -/
def overlong? (artifact : Artifact) : Option String :=
  let files := artifact.commands.map fun command => Artifact.moduleFile command.1.module
  files.find? fun file => file.utf8ByteSize > Files.nameLimit

/-- Writes one file of the output, with the right to run it. -/
def deliver (path : Path) (bytes : List UInt8) (world : World) : World × Except Failure Product :=
  match world.files.write path bytes true with
  | .error fault => (world, .error (accident fault))
  | .ok files => ({ world with files }, .ok ⟨path, bytes.length⟩)

def builtRecord (artifact : Product) (count : Nat) : String :=
  "Built " ++ artifact.path.text ++ " (" ++ toString count ++ " command(s))"

def deliverInstaller (clock : Int) (plan : Plan) (bytes : List UInt8) (world : World) :
    World × Except Failure Product :=
  let name := plan.artifact.name
  let path := plan.output.child (name ++ "-install.sh")
  match deliver path (Text.Utf8.encode (Installer.script bytes name)) world with
  | (world, .error failure) => (world, .error failure)
  | (world, .ok installer) =>
    (world.record clock Log.compilerPart .info ("Wrote installer " ++ path.text), .ok installer)

def carryOut (clock : Int) (runtime : Runtime) (installer : Bool) (plan : Plan) (world : World) :
    World × Except Failure Built :=
  match world.files.makeDirectories plan.output with
  | (files, some fault) => ({ world with files }, .error (accident fault))
  | (files, none) =>
    let world := { world with files }
    match overlong? plan.artifact with
    | some file => (world, .error (accident (.refused .nameTooLong file)))
    | none =>
      let bytes := plan.artifact.bytes runtime
      match deliver (plan.output.child (plan.artifact.name ++ ".pyz")) bytes world with
      | (world, .error failure) => (world, .error failure)
      | (world, .ok artifact) =>
        let commands := plan.artifact.commands.map fun command => command.1.schema.name
        let built : Built :=
          { name := plan.artifact.name
            version := plan.artifact.version
            artifact
            members := plan.artifact.members runtime
            commands
            skipped := plan.skipped
            installer := none }
        let world :=
          world.record clock Log.compilerPart .info (builtRecord artifact commands.length)
        if installer then
          match deliverInstaller clock plan bytes world with
          | (world, .error failure) => (world, .error failure)
          | (world, .ok product) => (world, .ok { built with installer := some product })
        else (world, .ok built)

end Build

def build (clock : Int) (runtime : Runtime) (order : Order) (world : World) :
    World × Except Failure Built :=
  match Build.plan world.files order with
  | (records, outcome) =>
    let world := records.foldl (fun world (record : Record) =>
      world.record clock Log.compilerPart record.1 record.2) world
    match outcome with
    | .error failure => (world, .error failure)
    | .ok plan => Build.carryOut clock runtime order.installer plan world

end Toolsmith
