import Mathlib.Data.List.Sort
import Mathlib.Data.String.Basic
import Toolsmith.Proofs.Schema.Compiler
import Toolsmith.Proofs.Schema.Document
import Toolsmith.Schema.Project
/-!
# The visit of a project

A visit gives the compiler some schemas in turn, and besides it only notes which directories are
left out (`ran_compileProject`).  So what holds after every run of a compiler holds after the visit
of a project, however it ends.
-/

namespace Toolsmith.Compiler

variable {files : Files} {lone : Text.StandIns}

/-! ## 1. The directories of a project -/

-- The names that denote directories, put in order, are the directories that are visited.
theorem directoriesIn_of_perm {commands : Path} {names sorted : List String}
    (among : directoriesAmong files commands ((files.entries commands).map Prod.fst) = .ok names)
    (perm : sorted.Perm names) (ordered : sorted.Pairwise (· ≤ ·)) :
    directoriesIn files commands = .ok (sorted.map commands.child) := by
  have merged : names.mergeSort (fun a b => decide (a ≤ b)) = sorted := by
    have sorted := List.pairwise_mergeSort' (α := String) (· ≤ ·) names
    exact List.Perm.eq_of_pairwise (fun _ _ _ _ => le_antisymm) sorted ordered
      ((List.mergeSort_perm names _).trans perm.symm)
  unfold directoriesIn
  rw [among]
  show Except.ok ((List.mergeSort _ _).map _) = _
  rw [merged]

theorem compileProject_of_found {project : Path} {directories : List Path}
    (there : files.isDirectory (project.child commandsDirectory) = .ok true)
    (found : directoriesIn files (project.child commandsDirectory) = .ok directories)
    (compiler : Compiler) :
    compiler.compileProject files project =
      visitAll files (standInsFor files directories) directories compiler := by
  unfold compileProject
  dsimp only
  rw [there, found]

/-! ## 2. Runs of the compiler -/

/-- A compiler came from another by being given some schemas that were read with the same stand-ins,
and by leaving directories out. -/
def Ran (lone : Text.StandIns) (before after : Compiler) : Prop :=
  ∃ schemas skipped, (∀ given ∈ schemas, given.1.lone = lone) ∧
    after = { before.compileAll schemas with skipped }

-- What has been left out does not matter to what is compiled.
theorem compile_skipped (compiler : Compiler) (skipped : List (String × String)) (schema : Schema)
    (handler : Path) :
    compile { compiler with skipped } schema handler =
      ({ (compiler.compile schema handler).1 with skipped },
        (compiler.compile schema handler).2) := by
  have same : checkSchema { compiler with skipped } schema = compiler.checkSchema schema := rfl
  unfold compile
  rw [same]
  cases compiler.checkSchema schema with
  | error complaint => rfl
  | ok flags =>
    dsimp only
    split <;> rfl

theorem compileAll_skipped (schemas : List (Schema × Path)) (compiler : Compiler)
    (skipped : List (String × String)) :
    compileAll { compiler with skipped } schemas =
      { compiler.compileAll schemas with skipped } := by
  induction schemas generalizing compiler with
  | nil => rfl
  | cons given schemas ih =>
    show compileAll (compile { compiler with skipped } given.1 given.2).1 schemas = _
    rw [compile_skipped]
    exact ih _

theorem Ran.refl (compiler : Compiler) : Ran lone compiler compiler :=
  ⟨[], compiler.skipped, List.forall_mem_nil _, rfl⟩

theorem Ran.skip (compiler : Compiler) (directory reason : String) :
    Ran lone compiler (compiler.skip directory reason).compiler :=
  ⟨[], _, List.forall_mem_nil _, rfl⟩

theorem Ran.trans {a b c : Compiler} (first : Ran lone a b) (rest : Ran lone b c) :
    Ran lone a c := by
  obtain ⟨schemas, skipped, read, rfl⟩ := first
  obtain ⟨others, skipped', read', rfl⟩ := rest
  refine ⟨schemas ++ others, skipped', List.forall_mem_append.mpr ⟨read, read'⟩, ?_⟩
  rw [compileAll_skipped, compileAll, compileAll, compileAll, List.foldl_append]

theorem ran_compileIn (compiler : Compiler) (directory : Path) :
    Ran lone compiler (compiler.compileIn files lone directory).compiler := by
  unfold compileIn
  cases read : Schema.load files (directory.child schemaFile) lone with
  | error failure => exact Ran.refl compiler
  | ok schema =>
    have given : Ran lone compiler (compiler.compile schema (directory.child handlerFile)).1 :=
      ⟨[(schema, directory.child handlerFile)], _,
        List.forall_mem_singleton.mpr (Schema.lone_of_load read), rfl⟩
    revert given
    dsimp only
    obtain ⟨next, fault | command⟩ := compiler.compile schema (directory.child handlerFile)
    all_goals exact id

theorem ran_visit (compiler : Compiler) (directory : Path) :
    Ran lone compiler (compiler.visit files lone directory).compiler := by
  unfold visit
  split
  · exact Ran.refl compiler
  · exact Ran.skip compiler _ _
  · split
    · exact Ran.refl compiler
    · exact Ran.skip compiler _ _
    · exact ran_compileIn compiler directory

theorem ran_visitAll (directories : List Path) (compiler : Compiler) :
    Ran lone compiler (visitAll files lone directories compiler).compiler := by
  induction directories generalizing compiler with
  | nil => exact Ran.refl compiler
  | cons directory directories ih =>
    have first : Ran lone compiler (compiler.visit files lone directory).compiler :=
      ran_visit compiler directory
    unfold visitAll
    dsimp only
    split
    · exact first
    · exact first.trans (ih _)

/-- The visit of a project is a run of the compiler on some schemas, with stand-ins for the
documents that were found. -/
theorem ran_compileProject (compiler : Compiler) (files : Files) (project : Path) :
    ∃ documents, Ran (Json.standIns documents) compiler
      (compiler.compileProject files project).compiler := by
  unfold compileProject
  dsimp only
  split
  · exact ⟨[], Ran.refl compiler⟩
  · exact ⟨[], Ran.refl compiler⟩
  · split
    · exact ⟨[], Ran.refl compiler⟩
    · exact ⟨_, ran_visitAll _ compiler⟩

end Toolsmith.Compiler
