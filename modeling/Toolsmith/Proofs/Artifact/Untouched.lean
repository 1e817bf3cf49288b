import Toolsmith.Proofs.Artifact.Members
import Toolsmith.Proofs.Files.Tree
/-!
# Builds that fail before they write

Before a build writes anything it has found out all that can be wrong with the schemas, the names
and the completions: later on only the files can fail it (`exists_accident_of_carryOut`).  So a
build that fails for a schema leaves the files as they are, with whatever earlier builds have put
there.  Only a log that has been given a file may have grown by the records of the visit
(`untouched_of_failed`).
-/

namespace Toolsmith

def Log.place? (log : Log) : Option (List String) := log.setup.bind LogSetup.file

/-! ## 1. Records -/

namespace World

/-- A world with the same files as an earlier one, up to what has been added to the file of its
log. -/
structure Untouched (before after : World) : Prop where
  place : after.log.place? = before.log.place?
  unfiled : before.log.place? = none → after.files = before.files
  filed : ∀ place, before.log.place? = some place → before.files.AlikeBut place after.files

theorem Untouched.refl (world : World) : Untouched world world :=
  ⟨rfl, fun _ => rfl, fun place _ => .refl place world.files⟩

theorem Untouched.trans {a b c : World} (first : Untouched a b) (rest : Untouched b c) :
    Untouched a c where
  place := rest.place.trans first.place
  unfiled none := (rest.unfiled (first.place.trans none)).trans (first.unfiled none)
  filed place some := (first.filed place some).trans (rest.filed place (first.place.trans some))

theorem untouched_record (world : World) (clock : Int) (part : String) (level : Level)
    (message : String) : Untouched world (world.record clock part level message) := by
  have setup : (world.log.withPart part).setup = world.log.setup := by
    unfold Log.withPart
    dsimp only
    split <;> rfl
  have place : (world.log.withPart part).place? = world.log.place? :=
    congrArg (·.bind LogSetup.file) setup
  unfold record
  dsimp only
  split
  next threshold file follows =>
    -- A part that follows a setup follows the one that the log has.
    have own : world.log.setup = some ⟨threshold, some file⟩ := by
      unfold Log.setupFor at follows
      split at follows
      next => exact follows
      next => cases follows
    have filed : world.log.place? = some file := by
      rw [Log.place?, own]
      rfl
    refine ⟨place, fun none => ?_, fun other some => ?_⟩
    · rw [filed] at none
      cases none
    · rw [filed] at some
      cases some
      exact Files.alikeBut_append world.files file _
  next => exact ⟨place, fun _ => rfl, fun other _ => .refl other world.files⟩

theorem untouched_records (records : List Record) (clock : Int) (part : String) (world : World) :
    Untouched world (records.foldl (fun world record =>
      world.record clock part record.1 record.2) world) := by
  induction records generalizing world with
  | nil => exact .refl world
  | cons record records ih =>
    exact (untouched_record world clock part record.1 record.2).trans (ih _)

end World

namespace Build

variable {clock : Int} {runtime : Runtime} {order : Order} {plan : Plan} {world : World}
variable {failure : Failure}

/-! ## 2. Writing -/

theorem exists_accident_of_deliver {path : Path} {bytes : List UInt8}
    (failed : (deliver path bytes world).2 = .error failure) :
    ∃ fault, failure = accident fault := by
  unfold deliver at failed
  split at failed
  next fault _ =>
    cases failed
    exact ⟨fault, rfl⟩
  next => cases failed

theorem exists_accident_of_deliverInstaller {bytes : List UInt8}
    (failed : (deliverInstaller clock plan bytes world).2 = .error failure) :
    ∃ fault, failure = accident fault := by
  unfold deliverInstaller at failed
  dsimp only at failed
  split at failed
  next delivered =>
    cases failed
    exact exists_accident_of_deliver (congrArg Prod.snd delivered)
  next => cases failed

/-- A build that is ready to write fails only for the files. -/
theorem exists_accident_of_carryOut {installer : Bool}
    (failed : (carryOut clock runtime installer plan world).2 = .error failure) :
    ∃ fault, failure = accident fault := by
  unfold carryOut at failed
  split at failed
  next fault _ =>
    cases failed
    exact ⟨fault, rfl⟩
  next =>
    dsimp only at failed
    split at failed
    next file _ =>
      cases failed
      exact ⟨.refused .nameTooLong file, rfl⟩
    next =>
      split at failed
      next delivered =>
        cases failed
        exact exists_accident_of_deliver (congrArg Prod.snd delivered)
      next =>
        split at failed
        next =>
          split at failed
          next delivered =>
            cases failed
            exact exists_accident_of_deliverInstaller (congrArg Prod.snd delivered)
          next => cases failed
        next => cases failed

/-! ## 3. Builds -/

-- What is not ready to be written is not written.
theorem untouched_of_plan_error (clock : Int) (runtime : Runtime)
    (failed : (Build.plan world.files order).2 = .error failure) :
    (build clock runtime order world).2 = .error failure ∧
      world.Untouched (build clock runtime order world).1 := by
  unfold build
  split
  next records outcome planned =>
    rw [planned] at failed
    obtain rfl : outcome = .error failure := failed
    exact ⟨rfl, World.untouched_records records clock Log.compilerPart world⟩

theorem exists_plan_error {files : Files} {project : Path}
    (placed : projectOf files order = .ok project)
    (stopped : (Compiler.fresh.compileProject files project).failure = some failure) :
    ∃ failure', (Build.plan files order).2 = .error failure' := by
  refine exists_error_iff.mpr ?_
  rintro ⟨plan, planned⟩
  obtain ⟨project', placed', unstopped, -⟩ := exists_of_plan planned
  cases placed.symm.trans placed'
  cases stopped.symm.trans unstopped

/-- If a build fails for a schema, or the visit of its project fails in any way, the files are as
they were before.  With a log that has a file, the same is found at every place that does not lead
to that file. -/
theorem untouched_of_failed (clock : Int) (runtime : Runtime) (order : Order) (world : World)
    (failed : (∃ fault, (build clock runtime order world).2 = .error (.schema fault)) ∨
      ∃ project failure, projectOf world.files order = .ok project ∧
        (Compiler.fresh.compileProject world.files project).failure = some failure) :
    (∃ failure, (build clock runtime order world).2 = .error failure) ∧
      world.Untouched (build clock runtime order world).1 := by
  cases planned : (Build.plan world.files order).2 with
  | error failure =>
    obtain ⟨reported, untouched⟩ := untouched_of_plan_error clock runtime planned
    exact ⟨⟨failure, reported⟩, untouched⟩
  | ok plan =>
    exfalso
    rcases failed with ⟨fault, refused⟩ | ⟨project, failure, placed, stopped⟩
    · unfold build at refused
      split at refused
      next records outcome ready =>
        rw [ready] at planned
        obtain rfl : outcome = .ok plan := planned
        obtain ⟨_, same⟩ := exists_accident_of_carryOut refused
        cases same
    · obtain ⟨_, unplanned⟩ := exists_plan_error placed stopped
      cases unplanned.symm.trans planned

def broken : Files :=
  ⟨.directory
    [("commands", .directory [("greet", .directory
      [("schema.json", .file (Text.Utf8.encode "\x7b") false), ("main.py", .file [] false)])]),
      ("dist", .directory [("tool.pyz", .file [80, 75] true)])], []⟩

theorem compileProject_broken :
    (Compiler.fresh.compileProject broken ⟨1, []⟩).failure =
      some (.schema (.document "/commands/greet/schema.json"
        (.invalidJson "Expecting property name enclosed in double quotes" 1 2))) := by
  have there : broken.isDirectory (Path.child ⟨1, []⟩ commandsDirectory) = .ok true := by
    decide +kernel
  have among : Compiler.directoriesAmong broken (Path.child ⟨1, []⟩ commandsDirectory)
      ((broken.entries (Path.child ⟨1, []⟩ commandsDirectory)).map Prod.fst) = .ok ["greet"] := rfl
  have found :=
    Compiler.directoriesIn_of_perm among (List.Perm.refl _) (List.pairwise_singleton _ _)
  rw [Compiler.compileProject_of_found there found]
  decide +kernel

theorem untouched_broken :
    (Compiler.fresh.compileProject broken ⟨1, []⟩).failure ≠ none ∧
      (build 0 hollowRuntime packGreetings (.fresh broken)).1.files = broken := by
  have placed : projectOf broken packGreetings = .ok ⟨1, []⟩ := rfl
  have stopped := compileProject_broken
  have untouched := (untouched_of_failed 0 hollowRuntime packGreetings (.fresh broken)
    (.inr ⟨_, _, placed, stopped⟩)).2
  refine ⟨?_, untouched.unfiled rfl⟩
  rw [stopped]
  exact Option.some_ne_none _

end Build

end Toolsmith
