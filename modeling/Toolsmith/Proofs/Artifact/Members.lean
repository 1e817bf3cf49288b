import Mathlib.Data.Set.Function
import Toolsmith.Artifact.Build
import Toolsmith.Proofs.Schema.Project
/-!
# The members of an artifact

Every build puts each of its members at a place of its own (`housed_of_build`).  Two commands may
have names that differ in a dash only, and then their handlers would become modules of one name; the
compiler accepts the first of them alone, so the modules of a run are all different
(`moduleName_injOn`).  No module has the name of the file that makes a directory a package, since
names begin with a letter.
-/

namespace Toolsmith

/-! ## 1. Modules of commands -/

namespace Compiler

@[simp] theorem toList_moduleName (name : String) :
    (moduleName name).toList = name.toList.map fun c => if c = '-' then '_' else c :=
  String.toList_ofList

-- A module has the letters, digits and underscores of its command, and no dots.
theorem dot_not_mem_moduleName {name : String} (h : Check.isName name = true) :
    '.' ∉ (moduleName name).toList := by
  rw [toList_moduleName]
  intro dot
  obtain ⟨c, hc, same⟩ := List.mem_map.mp dot
  split at same
  next => exact absurd same (by decide)
  next =>
    have char := Check.isNameChar_of_mem h hc
    rw [same] at char
    exact absurd char (by decide)

-- A module begins with a letter as its command does.
theorem moduleName_ne_of_isName {name : String} (h : Check.isName name = true) {other : String}
    {cs : List Char} (chars : other.toList = '_' :: cs) : moduleName name ≠ other := by
  intro same
  unfold Check.isName at h
  split at h
  next => cases h
  next first rest named =>
    have letter : first.isAlpha = true := (Bool.and_eq_true_iff.mp h).1
    have heads := congrArg List.head? (congrArg String.toList same)
    rw [toList_moduleName, named, chars, List.map_cons, List.head?_cons, List.head?_cons,
      Option.some.injEq] at heads
    split at heads
    next dash =>
      rw [dash] at letter
      exact absurd letter (by decide)
    next =>
      rw [heads] at letter
      exact absurd letter (by decide)

theorem Consistent.module_inj {compiler : Compiler} (h : compiler.Consistent) {c c' : Compiled}
    (hc : c ∈ compiler.commands) (hc' : c' ∈ compiler.commands) (same : c.module = c'.module) :
    c = c' :=
  List.inj_on_of_nodup_map h.modules hc hc' same

/-- Commands that one run of the compiler has accepted have different modules. -/
theorem Consistent.moduleName_injOn {compiler : Compiler} (h : compiler.Consistent) :
    Set.InjOn moduleName {name | name ∈ compiler.names} := by
  rintro name hname name' hname' same
  obtain ⟨c, hc, rfl⟩ := List.mem_map.mp hname
  obtain ⟨c', hc', rfl⟩ := List.mem_map.mp hname'
  rw [h.module_inj hc hc' ?_]
  rw [(h.checked c hc).module, (h.checked c' hc').module]
  exact same

end Compiler

/-! ## 2. Paths -/

/-- The path at which a module is looked for, from the directory where imports begin: the packages
before the dots of its name are directories. -/
def Deferred.path (d : Deferred) : String :=
  Artifact.moduleFile (Text.join "/" (Text.split '.' d.module))

namespace Artifact

theorem inPackage_inj {package file file' : String} :
    inPackage package file = inPackage package file' ↔ file = file' := by
  unfold inPackage
  rw [String.append_right_inj]

theorem moduleFile_inj {module module' : String} :
    moduleFile module = moduleFile module' ↔ module = module' := by
  unfold moduleFile
  rw [String.append_left_inj]

-- The generated modules lie in no package.
theorem slash_mem_inPackage (package file : String) : '/' ∈ (inPackage package file).toList := by
  simp [inPackage]

theorem head?_inPackage {package : String} {c : Char} {cs : List Char}
    (chars : package.toList = c :: cs) (file : String) :
    (inPackage package file).toList.head? = some c := by
  simp [inPackage, chars]

variable (runtime : Runtime) (a : Artifact)

/-- The paths of the members: those of the generated modules, of the package with the handlers, and
of the runtime package. -/
theorem map_path_members :
    (a.members runtime).map Archive.Member.path =
      ["__main__.py", "_completions.py", "_registrations.py"] ++
        (packageFile :: a.commands.map fun c => moduleFile c.1.module).map
          (inPackage handlerPackage) ++
        (runtimeMembers runtime).map Archive.Member.path := by
  simp only [members, generated, handlers, textMember, List.map_append, List.map_cons, List.map_nil,
    List.map_map]
  rfl

theorem map_path_runtimeMembers :
    (runtimeMembers runtime).map Archive.Member.path =
      (runtimeFiles.filter fun file =>
        (runtime.find? fun member => member.path = file).isSome).map (inPackage Tool.name) := by
  rw [runtimeMembers, List.map_filterMap, ← List.filterMap_eq_map, List.filterMap_filter]
  refine List.filterMap_congr fun file _ => ?_
  cases runtime.find? fun member => member.path = file <;> rfl

variable {runtime a}

theorem nodup_members (modules : (a.commands.map fun c => c.1.module).Nodup)
    (named : ∀ c ∈ a.commands, c.1.module ≠ "__init__") :
    ((a.members runtime).map Archive.Member.path).Nodup := by
  have files : (packageFile :: a.commands.map fun c => moduleFile c.1.module).Nodup := by
    refine List.nodup_cons.mpr ⟨?_, ?_⟩
    · intro taken
      obtain ⟨c, hc, same⟩ := List.mem_map.mp taken
      exact named c hc (moduleFile_inj.mp same)
    · have mapped := modules.map (f := moduleFile) fun _ _ => moduleFile_inj.mp
      rw [List.map_map] at mapped
      exact mapped
  have packaged (package : String) {names : List String} (h : names.Nodup) :
      (names.map (inPackage package)).Nodup := h.map fun _ _ => inPackage_inj.mp
  have plain : ∀ path ∈ ["__main__.py", "_completions.py", "_registrations.py"],
      '/' ∉ path.toList := by decide
  have distinct : runtimeFiles.Nodup := by decide
  rw [map_path_members, map_path_runtimeMembers, List.append_assoc]
  refine List.nodup_append.mpr ⟨by decide, List.nodup_append.mpr ⟨packaged _ files,
    packaged _ (distinct.filter _), ?_⟩, ?_⟩
  · intro path hpath path' hpath' same
    obtain ⟨file, -, rfl⟩ := List.mem_map.mp hpath
    obtain ⟨file', -, rfl⟩ := List.mem_map.mp hpath'
    -- The packages begin with different characters.
    have handler : (inPackage handlerPackage file).toList.head? = some '_' :=
      head?_inPackage rfl file
    have tool : (inPackage Tool.name file').toList.head? = some 's' := head?_inPackage rfl file'
    rw [same, tool] at handler
    cases handler
  · rintro path hpath _ hpath' rfl
    refine plain path hpath ?_
    rcases List.mem_append.mp hpath' with inside | inside <;>
      obtain ⟨file, -, rfl⟩ := List.mem_map.mp inside <;>
      exact slash_mem_inPackage _ file

end Artifact

/-! ## 3. Builds -/

namespace Build

variable {files : Files} {order : Order} {plan : Plan}

-- What is packed are the commands of the project, each with the bytes of its handler.
theorem exists_of_plan (h : (Build.plan files order).2 = .ok plan) :
    ∃ project, projectOf files order = .ok project ∧
      (Compiler.fresh.compileProject files project).failure = none ∧
      (Compiler.fresh.compileProject files project).compiler.commands.mapM (withHandler files) =
        .ok plan.artifact.commands := by
  unfold Build.plan at h
  dsimp only at h
  split at h
  next => cases h
  next project name output start =>
    obtain ⟨found, placed, start⟩ := bind_eq_ok_iff.mp start
    obtain ⟨_, -, start⟩ := bind_eq_ok_iff.mp start
    obtain ⟨_, -, start⟩ := bind_eq_ok_iff.mp start
    cases start
    refine ⟨project, placed, ?_⟩
    dsimp only at h
    split at h
    next => cases h
    next visited =>
      split at h
      next => cases h
      next =>
        obtain ⟨commands, read, h⟩ := bind_eq_ok_iff.mp h
        cases h
        exact ⟨visited, read⟩

theorem map_fst_of_mapM_withHandler {commands : List Compiled}
    {packed : List (Compiled × List UInt8)}
    (read : commands.mapM (withHandler files) = .ok packed) : packed.map Prod.fst = commands := by
  have each : List.Forall₂ (fun c p => c = Prod.fst p) commands packed := by
    refine (mapM_eq_ok_iff.mp read).imp ?_
    intro c p packs
    unfold withHandler at packs
    split at packs
    next => exact congrArg Prod.fst (Except.ok.inj packs)
    next => cases packs
  rw [← List.forall₂_map_right_iff, List.forall₂_eq_eq_eq] at each
  exact each.symm

variable {clock : Int} {runtime : Runtime} {world : World} {built : Built}

theorem packed_of_carryOut {installer : Bool}
    (done : (carryOut clock runtime installer plan world).2 = .ok built) :
    built.members = plan.artifact.members runtime ∧
      built.commands = plan.artifact.commands.map fun c => c.1.schema.name := by
  unfold carryOut at done
  split at done
  next => cases done
  next =>
    dsimp only at done
    split at done
    next => cases done
    next =>
      split at done
      next => cases done
      next =>
        split at done
        next =>
          -- An installer is one thing more to tell of, and changes nothing in what is told else.
          split at done
          next => cases done
          next =>
            cases done
            exact ⟨rfl, rfl⟩
        next =>
          cases done
          exact ⟨rfl, rfl⟩

theorem exists_plan_of_build (done : (build clock runtime order world).2 = .ok built) :
    ∃ plan, (Build.plan world.files order).2 = .ok plan ∧
      built.members = plan.artifact.members runtime ∧
      built.commands = plan.artifact.commands.map fun c => c.1.schema.name := by
  unfold build at done
  split at done
  next records outcome planned =>
    rw [planned]
    cases outcome with
    | error failure => cases done
    | ok plan => exact ⟨plan, rfl, packed_of_carryOut done⟩

end Build

/-- Members that are all at different places, with those that hold the handlers of some commands:
each command has one of its own, which is where the deferred handler in its registration looks for
it, and which is not the file that makes the package. -/
structure Housed (members : List Archive.Member) (commands : List (Compiled × List UInt8)) :
    Prop where
  distinct : (members.map Archive.Member.path).Nodup
  alone : ∀ c ∈ commands, ∀ member, member ∈ members ∧ member.path = Artifact.handlerPath c.1 ↔
    member = ⟨Artifact.handlerPath c.1, c.2⟩
  apart : ∀ c ∈ commands,
    Artifact.handlerPath c.1 ≠ Artifact.inPackage Artifact.handlerPackage Artifact.packageFile
  named : ∀ c ∈ commands,
    (Registrations.handlerOf Artifact.handlerPackage c.1).path = Artifact.handlerPath c.1
  registered : Artifact.textMember "_registrations.py"
    (Registrations.source Artifact.handlerPackage (commands.map Prod.fst)) ∈ members

-- The module that a deferred handler names lies where the handler is packed.
theorem Registrations.path_handlerOf {c : Compiled} (checked : Compiler.Checked c) :
    (handlerOf Artifact.handlerPackage c).path = Artifact.handlerPath c := by
  have package : '.' ∉ Artifact.handlerPackage.toList := by decide
  have module : '.' ∉ c.module.toList := by
    rw [checked.module]
    exact Compiler.dot_not_mem_moduleName checked.name
  have parts : Text.split '.' (Artifact.handlerPackage ++ "." ++ c.module) =
      [Artifact.handlerPackage, c.module] := by
    have chars : (Artifact.handlerPackage ++ "." ++ c.module).toList =
        Artifact.handlerPackage.toList ++ '.' :: c.module.toList := by
      rw [String.toList_append, String.toList_append, List.append_assoc]
      rfl
    rw [Text.split, chars, List.splitOn_append_cons_self_of_not_mem package,
      List.splitOn_eq_singleton module]
    simp
  unfold Deferred.path handlerOf
  dsimp only
  rw [parts]
  show Artifact.handlerPackage ++ ("/" ++ c.module) ++ ".py" = _
  rw [Artifact.handlerPath, Artifact.inPackage, Artifact.moduleFile]
  simp only [String.append_assoc]

theorem Compiler.Consistent.housed {compiler : Compiler} (h : compiler.Consistent)
    {runtime : Runtime} {a : Artifact} (commands : a.commands.map Prod.fst = compiler.commands) :
    Housed (a.members runtime) a.commands := by
  have checked : ∀ c ∈ a.commands, Compiler.Checked c.1 := by
    intro c hc
    refine h.checked c.1 ?_
    rw [← commands]
    exact List.mem_map_of_mem hc
  have named : ∀ c ∈ a.commands, c.1.module ≠ "__init__" := by
    intro c hc
    rw [(checked c hc).module]
    exact Compiler.moduleName_ne_of_isName (checked c hc).name rfl
  have modules : (a.commands.map fun c => c.1.module).Nodup := by
    have nodup := h.modules
    rw [← commands, List.map_map] at nodup
    exact nodup
  have nodup : ((a.members runtime).map Archive.Member.path).Nodup :=
    Artifact.nodup_members modules named
  refine ⟨nodup, ?_, ?_, fun c hc => Registrations.path_handlerOf (checked c hc), ?_⟩
  · intro c hc member
    have packed : ⟨Artifact.handlerPath c.1, c.2⟩ ∈ a.members runtime := by
      refine List.mem_append_left _ (List.mem_append_right _ (List.mem_cons_of_mem _ ?_))
      exact List.mem_map.mpr ⟨c, hc, rfl⟩
    constructor
    · rintro ⟨hmember, path⟩
      exact List.inj_on_of_nodup_map nodup hmember packed path
    · rintro rfl
      exact ⟨packed, rfl⟩
  · intro c hc same
    exact named c hc (Artifact.moduleFile_inj.mp (Artifact.inPackage_inj.mp same))
  · refine List.mem_append_left _ (List.mem_append_left _ ?_)
    exact List.mem_cons_of_mem _ (List.mem_cons_of_mem _ List.mem_cons_self)

def commandIn (name : String) : String × Node :=
  let schema := "\x7b\"name\": \"" ++ name ++ "\", \"description\": \"Greet someone\"\x7d"
  (name, .directory [("schema.json", .file (Text.Utf8.encode schema) false),
    ("main.py", .file [] false)])

def greetings : Files :=
  ⟨.directory [("commands", .directory [commandIn "greet", commandIn "say-hi"])], []⟩

def packGreetings : Order := { project := ".", name := some "tool" }

def hollowRuntime : Runtime := Artifact.runtimeFiles.map fun file => ⟨file, []⟩

-- Sorting is by recursion on a length, so the order of the directories is not left to evaluation.
theorem compileProject_greetings :
    Compiler.fresh.compileProject greetings ⟨1, []⟩ =
      Compiler.visitAll greetings []
        [⟨1, ["commands", "greet"]⟩, ⟨1, ["commands", "say-hi"]⟩] .fresh := by
  have there : greetings.isDirectory (Path.child ⟨1, []⟩ commandsDirectory) = .ok true := by
    decide +kernel
  have among : Compiler.directoriesAmong greetings (Path.child ⟨1, []⟩ commandsDirectory)
      ((greetings.entries (Path.child ⟨1, []⟩ commandsDirectory)).map Prod.fst) =
        .ok ["greet", "say-hi"] := rfl
  have found : Compiler.directoriesIn greetings (Path.child ⟨1, []⟩ commandsDirectory) =
      .ok [⟨1, ["commands", "greet"]⟩, ⟨1, ["commands", "say-hi"]⟩] :=
    Compiler.directoriesIn_of_perm among (List.Perm.refl _) (by decide)
  have lone : Compiler.standInsFor greetings
      [⟨1, ["commands", "greet"]⟩, ⟨1, ["commands", "say-hi"]⟩] = [] := by
    decide +kernel
  rw [Compiler.compileProject_of_found there found, lone]

end Toolsmith
