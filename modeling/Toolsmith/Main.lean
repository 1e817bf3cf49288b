import Toolsmith.Builder.Run
import Toolsmith.Files.Changes
/-!
# The program

The builder as a program.  It looks at the files that the command line names, lets the builder
work on what it has seen, carries out the changes, and prints what the builder says.
-/

namespace Toolsmith.Program

def attempt {α : Type} (action : IO α) : IO (Option α) := do
  try return some (← action) catch _ => return none

def textOf (place : List String) : String := (Path.ofNames place).text

/-! ## 1. Looking at the files -/

/-- The files whose bytes matter. -/
def isRead (place : List String) : Bool :=
  match place.getLast? with
  | some name => name = schemaFile || name = handlerFile
  | none => false

/-- What is at a place, with the directories below it to some depth. -/
def survey : Nat → List String → IO (Option Node)
  | depth, place => do
    let some path ← attempt (IO.FS.realPath (textOf place)) | return none
    let some data ← attempt path.metadata | return none
    match data.type with
    | .dir =>
      match depth with
      | 0 => return some (.directory [])
      | depth + 1 =>
        let found := (← attempt path.readDir).getD #[]
        let entries ← found.toList.filterMapM fun entry => do
          let node ← survey depth (place ++ [entry.fileName])
          return node.map fun node => (entry.fileName, node)
        return some (.directory entries)
    | .file =>
      if isRead place then
        let bytes ← attempt (IO.FS.readBinFile path)
        return bytes.map fun bytes => .file bytes.toList false
      else return some (.file [] false)
    | _ => return none

/-- Adds to a tree what is on the way to a place, and below it to some depth. -/
def surveyAlong (depth : Nat) : List String → List String → Node → IO Node
  | past, [], root => do
    if depth = 0 && (Files.nodeAt? root past).isSome then return root
    match ← survey depth past with
    | some node => return Files.putNode node past root
    | none => return root
  | past, name :: rest, root => do
    let root ←
      match Files.nodeAt? root past with
      | some _ => pure root
      | none =>
        match ← survey 0 past with
        | some node => pure (Files.putNode node past root)
        | none => pure root
    surveyAlong depth (past ++ [name]) rest root

/-- What an order makes the builder look at: the project with its commands, and the output. -/
def landscape (here : List String) (order : Option Order) : IO Files := do
  match order with
  | none => return ⟨← surveyAlong 0 [] here (.directory []), here⟩
  | some order =>
    let project := Path.ofNames ((Path.ofText order.project).absolute here)
    let root ←
      match Build.outputOf order project with
      | .ok output => surveyAlong 1 [] (output.absolute here) (.directory [])
      | .error _ => pure (.directory [])
    let root ← surveyAlong 0 [] here root
    let root ← surveyAlong 2 [] (project.child commandsDirectory).names root
    return ⟨root, here⟩

def carryOut : Files.Change → IO Unit
  | .makeDirectory place => IO.FS.createDir (textOf place)
  | .writeFile place bytes executable => do
    IO.FS.writeBinFile (textOf place) (ByteArray.mk bytes.toArray)
    if executable then
      let all := ⟨true, true, true⟩
      let others := ⟨true, false, true⟩
      IO.setAccessRights (textOf place) { user := all, group := others, other := others }

/-! ## 2. Looking at the machine -/

def clock : IO Int := do
  let (_, path) ← IO.FS.createTempFile
  let data ← path.metadata
  IO.FS.removeFile path
  return data.modified.sec

def find? (name : String) : IO (Option String) := do
  let search := Text.split ':' ((← IO.getEnv "PATH").getD "")
  search.findSomeM? fun directory => do
    let path ← attempt (IO.FS.realPath (((Path.ofText directory).child name).text))
    return path.map toString

/-- The version that the file name of an interpreter ends with. -/
def versionIn (path : String) : List Nat :=
  let digits := (Path.ofText path).name.toList.dropWhile fun c => !c.isDigit
  (Text.split '.' (String.ofList digits)).filterMap String.toNat?

def firstLine (path : String) : IO String := do
  let text ← attempt (IO.FS.readFile path)
  return (Text.lines (text.getD "")).headD ""

def machine : IO Machine := do
  let tools ← ["bash", "zsh", "base64", "openssl"].filterMapM fun name => do
    return (← find? name).map fun path => (name, path)
  let interpreter ← find? "python3"
  return {
    tools := .ofList tools
    interpreter := (interpreter.map versionIn).getD []
    system := ← firstLine "/proc/sys/kernel/ostype"
    release := ← firstLine "/proc/sys/kernel/osrelease"
    hardware := ← firstLine "/proc/sys/kernel/arch"
    rich := none }

/-- The runtime, which lies in a directory beside the program. -/
def runtime : IO Runtime := do
  let home := (Path.ofText (toString (← IO.appPath))).parent.child "runtime"
  Artifact.runtimeFiles.mapM fun file => do
    let bytes ← IO.FS.readBinFile (home.child file).text
    return ⟨file, bytes.toList⟩

/-! ## 3. Running -/

def orderIn (words : List String) : Option Order :=
  match Builder.readLine words with
  | .task (some .build) _ back => some (Builder.orderOf back)
  | _ => none

def run (words : List String) : IO Int := do
  let here := (Path.ofText (toString (← IO.currentDir))).names
  let order := orderIn words
  let before ← landscape here order
  let shop : Builder.Workshop :=
    { clock := ← clock
      machine := ← machine
      runtime := ← if order.isSome then runtime else pure [] }
  let (world, code) := Builder.run shop words (.fresh before)
  (Files.changes before world.files).forM carryOut
  IO.print world.out
  IO.eprint world.err
  return code

end Toolsmith.Program

/-- Runs the builder; an error of the system is told to the user. -/
def main (words : List String) : IO UInt32 := do
  let code ←
    try Toolsmith.Program.run words
    catch error =>
      IO.eprint (Toolsmith.Console.error Toolsmith.Console.unforeseen (some (toString error)))
      pure Toolsmith.ExitCode.unforeseen
  return UInt32.ofNat code.toNat
