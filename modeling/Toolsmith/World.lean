import Toolsmith.Log
import Toolsmith.Console
/-!
# The world of a run

What a run can change: the files, the text on standard output and standard error, and the log.
-/

namespace Toolsmith

structure World where
  files : Files
  out : String
  err : String
  log : Log
  deriving Repr

namespace World

def fresh (files : Files) : World := ⟨files, "", "", {}⟩

def sayOut (world : World) (text : String) : World := { world with out := world.out ++ text }

def sayErr (world : World) (text : String) : World := { world with err := world.err ++ text }

def record (world : World) (clock : Int) (part : String) (level : Level) (message : String) :
    World :=
  let setup := world.log.setupFor part
  let world := { world with log := world.log.withPart part }
  let world := world.sayErr (Log.shown setup clock level message)
  match setup with
  | some ⟨threshold, some place⟩ =>
    let text := Log.filed ⟨threshold, some place⟩ clock level message
    { world with files := world.files.append place text }
  | _ => world

section

variable (world : World) (text : String)

@[simp] theorem sayOut_out : (world.sayOut text).out = world.out ++ text := rfl

@[simp] theorem sayOut_err : (world.sayOut text).err = world.err := rfl

@[simp] theorem sayErr_out : (world.sayErr text).out = world.out := rfl

@[simp] theorem sayErr_err : (world.sayErr text).err = world.err ++ text := rfl

variable (clock : Int) (part : String) (level : Level) (message : String)

@[simp] theorem record_out :
    (world.record clock part level message).out = world.out := by
  unfold record
  dsimp only
  split <;> rfl

@[simp] theorem record_err :
    (world.record clock part level message).err =
      world.err ++ Log.shown (world.log.setupFor part) clock level message := by
  unfold record
  dsimp only
  split <;> rfl

end

def logPath (here : List String) (path : Path) : Path :=
  ⟨if path.slashes = 2 then 2 else 1, path.absolute here⟩

/-- Sets the log up anew.  An unknown level changes nothing.  Afterwards the log is without a
file until one has been opened: its directory is made if need be, and the file is added to. -/
def setUpLog (world : World) (level : String) (file : Option String) : World × Option Failure :=
  match Log.threshold level with
  | .error fault => (world, some (.validation fault))
  | .ok threshold =>
    let world := { world with log.setup := some ⟨threshold, none⟩ }
    match file.filter (· ≠ "") with
    | none => (world, none)
    | some text =>
      let path := Path.ofText text
      match world.files.makeDirectories path.parent with
      | (files, some (.refused _ _)) =>
        ({ world with files }, some (.validation (.noLogDirectory path.parent.text)))
      | (files, some fault) => ({ world with files }, some (.accident (.files fault)))
      | (files, none) =>
        match files.openEnd (logPath files.here path) with
        | .error fault => ({ world with files }, some (.accident (.files fault)))
        | .ok (files, place) =>
          ({ world with files, log.setup := some ⟨threshold, some place⟩ }, none)

end World

end Toolsmith
