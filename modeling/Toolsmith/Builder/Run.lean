import Toolsmith.Artifact.Build
import Toolsmith.Builder.Reading
import Toolsmith.Doctor
/-!
# Runs of the builder

A run reads its command line, does what it asks for and gives an exit code.  Whatever goes wrong
is told to the user; no failure leaves a run.
-/

namespace Toolsmith.Builder

/-- What a run of the builder sees and cannot change: the clock, the machine, and the runtime that
goes into every artifact. -/
structure Workshop where
  clock : Int
  machine : Machine
  runtime : Runtime

/-! ## 1. Tasks -/

def valueOf (wish : Wish) (steps : List Step) : Option (Option String) :=
  steps.reverse.findSome? fun step =>
    match step with
    | .wish other value => if other = wish then some value else none
    | _ => none

def asksFor (wish : Wish) (steps : List Step) : Bool := (valueOf wish steps).isSome

def argumentOf (steps : List Step) : Option String :=
  steps.findSome? fun step =>
    match step with
    | .argument text => some text
    | _ => none

def defaultProject : String := "."

def destinationOf (steps : List Step) : Destination :=
  match valueOf .output steps with
  | none => .inProject
  | some none => .nowhere
  | some (some directory) => .directory directory

/-- The text that steps give to a wish, or the one that is meant without it.  Where a value was due
and is missing, the text is that of an empty list. -/
def textOf (wish : Wish) (steps : List Step) (default : String) : String :=
  match valueOf wish steps with
  | none => default
  | some value => value.getD "[]"

def orderOf (steps : List Step) : Order :=
  { project := (argumentOf steps).getD defaultProject
    output := destinationOf steps
    name := (valueOf .name steps).join
    version := textOf .appVersion steps Application.defaultVersion
    description := textOf .description steps Application.defaultDescription
    installer := asksFor .installer steps }

def sized (product : Product) : String :=
  product.path.text ++ " (" ++ toString product.size ++ " bytes)"

def summary (built : Built) : String :=
  let commands := if built.commands.isEmpty then "(none)" else Text.join ", " built.commands
  Console.success ("Built " ++ sized built.artifact)
    ++ Console.plain ("Commands: " ++ commands)
    ++ (if built.skipped.isEmpty then ""
      else Console.warning ("Skipped incomplete command directories: "
        ++ Text.join ", " (built.skipped.map Prod.fst)))
    ++ ((built.installer.map fun installer =>
      Console.success ("Installer " ++ sized installer)).getD "")
    ++ Console.plain ("Try it: " ++ built.artifact.path.text ++ " --help")

def runBuild (w : Workshop) (order : Order) (world : World) : World × Except Failure Int :=
  match build w.clock w.runtime order world with
  | (world, .error failure) => (world, .error failure)
  | (world, .ok built) => (world.sayErr (summary built), .ok ExitCode.success)

def runDoctor (w : Workshop) (world : World) : World × Except Failure Int :=
  match Doctor.examine world.files.here w.machine with
  | .error fault => (world, .error (.accident (.files fault)))
  | .ok findings => (world.sayErr (Doctor.report findings), .ok (Doctor.exitCode findings))

def levelName (front : List Step) : String := if asksFor .verbose front then "debug" else "warn"

/-- Does a job; without one the user is shown the help. -/
def runTask (w : Workshop) (job : Option Job) (back : List Step) (world : World) :
    World × Except Failure Int :=
  match job with
  | none => (world.sayOut Scope.tool.helpText, .ok ExitCode.success)
  | some .build => runBuild w (orderOf back) world
  | some .doctor => runDoctor w world

/-! ## 2. Runs -/

def versionLine : String := Console.plain (Tool.name ++ " " ++ Tool.version)

def refusalText (scope : Scope) (fault : Fault) : String :=
  scope.usageText ++ Console.plain (scope.program ++ ": error: " ++ fault.message)

def refusal : Int := 2

def follow (w : Workshop) (demand : Demand) (world : World) : World × Except Failure Int :=
  match demand with
  | .help scope => (world.sayOut scope.helpText, .ok ExitCode.success)
  | .version => (world.sayOut versionLine, .ok ExitCode.success)
  | .refused scope fault => (world.sayErr (refusalText scope fault), .ok refusal)
  | .task job front back =>
    match world.setUpLog (levelName front) none with
    | (world, some failure) => (world, .error failure)
    | (world, none) => runTask w job back world

def complaint : Failure → String
  | .interrupt => Console.plain "\n[yellow]Aborted by user.[/yellow]"
  | .accident fault =>
    Console.error Console.unforeseen (some (fault.label ++ ": " ++ fault.text))
  | failure => Console.error failure.message failure.hint?

/-- Ends a run: a failure is told to the user and becomes an exit code. -/
def conclude : World × Except Failure Int → World × Int
  | (world, .ok code) => (world, code)
  | (world, .error failure) => (world.sayErr (complaint failure), failure.exitCode)

def run (w : Workshop) (words : List String) (world : World) : World × Int :=
  conclude (follow w (readLine words) world)

end Toolsmith.Builder
