import Mathlib
import Toolsmith.Proofs.Files.Tree
import Toolsmith.Proofs.Schema.Project
import Toolsmith.Proofs.Schema.Refusal
import Toolsmith.Proofs.Text.Utf8
/-!
# What a project contributes

Each directory of a command contributes a command, or a gap of which a warning tells, and the visit
of the directory takes just that (`takes_visit`).  So the visit of a project is a walk over the
directories among its commands, in the order of their names and not in that of the system's list,
up to the first that cannot be read or is refused (`walked_compileProject`).  Before the walk every
entry is looked at, a file too; if the path of one is too long to be looked for, there is no walk.
-/

namespace Toolsmith

/-! ## 1. Listings -/

abbrev Folder := String × List (String × Node)

/-- The entries of a directory as a system can list them: they have names, and no two the same. -/
structure Listing (entries : List (String × Node)) : Prop where
  names : ∀ entry ∈ entries, FileName entry.1
  distinct : (entries.map Prod.fst).Nodup

theorem Listing.perm {entries entries' : List (String × Node)} (listing : Listing entries)
    (perm : entries'.Perm entries) : Listing entries' :=
  ⟨fun entry h => listing.names entry (perm.mem_iff.mp h),
    (perm.map Prod.fst).nodup_iff.mpr listing.distinct⟩

namespace Folder

def directory? : String × Node → Option Folder
  | (name, .directory inner) => some (name, inner)
  | (_, .file _ _) => none

/-- The directories among some entries, in the order of their names by code point. -/
def among (entries : List (String × Node)) : List Folder :=
  (entries.filterMap directory?).mergeSort fun a b => decide (a.1 ≤ b.1)

variable {entries entries' : List (String × Node)} {name : String} {inner : List (String × Node)}

theorem directory?_eq_some_iff {entry : String × Node} :
    directory? entry = some (name, inner) ↔ entry = (name, .directory inner) := by
  obtain ⟨other, _ | _⟩ := entry <;> simp [directory?]

theorem mem_among_iff : (name, inner) ∈ among entries ↔ (name, .directory inner) ∈ entries := by
  rw [among, List.mem_mergeSort, List.mem_filterMap]
  simp [directory?_eq_some_iff]

theorem map_fst_filterMap_directory? (entries : List (String × Node)) :
    ((entries.filterMap directory?).map Prod.fst).Sublist (entries.map Prod.fst) := by
  induction entries with
  | nil => exact List.Sublist.refl _
  | cons entry entries ih =>
    obtain ⟨name, _ | inner⟩ := entry
    · exact ih.cons name
    · exact ih.cons_cons name

theorem among_pairwise (distinct : (entries.map Prod.fst).Nodup) :
    (among entries).Pairwise fun a b => a.1 < b.1 := by
  have ordered : (among entries).Pairwise fun a b => a.1 ≤ b.1 := by
    have sorted : (among entries).Pairwise fun a b => decide (a.1 ≤ b.1) = true :=
      List.pairwise_mergeSort
        (fun a b c first next =>
          decide_eq_true ((of_decide_eq_true first).trans (of_decide_eq_true next)))
        (fun a b => by simpa using le_total a.1 b.1) (entries.filterMap directory?)
    exact sorted.imp of_decide_eq_true
  have apart : (among entries).Pairwise fun a b => a.1 ≠ b.1 := by
    have nodup : ((among entries).map Prod.fst).Nodup :=
      ((List.mergeSort_perm _ _).map Prod.fst).nodup_iff.mpr
        (distinct.sublist (map_fst_filterMap_directory? entries))
    exact List.pairwise_map.mp nodup
  exact ordered.imp₂ (fun _ _ => lt_of_le_of_ne) apart

theorem among_eq (distinct : (entries.map Prod.fst).Nodup) {folders : List Folder}
    (perm : folders.Perm (entries.filterMap directory?))
    (ordered : folders.Pairwise fun a b => a.1 < b.1) : among entries = folders := by
  have asymm : ∀ a b : Folder, a ∈ among entries → b ∈ folders → a.1 < b.1 → b.1 < a.1 → a = b :=
    fun _ _ _ _ before after => absurd after before.asymm
  exact List.Perm.eq_of_pairwise asymm (among_pairwise distinct) ordered
    ((List.mergeSort_perm _ _).trans perm.symm)

-- In which order the entries are listed does not matter.
theorem among_perm (distinct : (entries.map Prod.fst).Nodup) (perm : entries'.Perm entries) :
    among entries' = among entries := by
  have distinct' : (entries'.map Prod.fst).Nodup := (perm.map Prod.fst).nodup_iff.mpr distinct
  refine among_eq distinct' ?_ (among_pairwise distinct)
  exact (List.mergeSort_perm _ _).trans (perm.filterMap directory?).symm

end Folder

/-! ## 2. Contributions -/

/-- What the directory of a command contributes: a schema with the place of its handler, or a gap,
which is the name of a file that it lacks. -/
inductive Contribution
  | command (schema : Schema) (handler : Path)
  | gap (directory file : String)

namespace Contribution

def command? : Contribution → Option (Schema × Path)
  | command schema handler => some (schema, handler)
  | gap _ _ => none

def gap? : Contribution → Option (String × String)
  | command _ _ => none
  | gap directory file => some (directory, "no " ++ file)

def commands (contributions : List Contribution) : List (Schema × Path) :=
  contributions.filterMap command?

def gaps (contributions : List Contribution) : List (String × String) :=
  contributions.filterMap gap?

end Contribution

def warning (gap : String × String) : Record :=
  (.warning, "Skipping command directory '" ++ gap.1 ++ "': " ++ gap.2)

/-- What a directory inside another one contributes.  A directory with a file for the schema and a
file for the handler contributes what the schema denotes.  Of the others, one without the first
lacks the schema, whatever else it lacks. -/
def Folder.contribution (commands : Path) (lone : Text.StandIns) (folder : Folder) :
    Except Failure Contribution :=
  let directory := commands.child folder.1
  let path := directory.child schemaFile
  if path.Overlong then .error (.accident (.files (.refused .nameTooLong path.text)))
  else
    match folder.2.lookup schemaFile, folder.2.lookup handlerFile with
    | some (.file bytes _), some (.file _ _) =>
      (Schema.ofBytes path bytes lone).map fun schema =>
        .command schema (directory.child handlerFile)
    | some (.file _ _), _ => .ok (.gap folder.1 handlerFile)
    | _, _ => .ok (.gap folder.1 schemaFile)

/-- A directory that is where its name says. -/
structure Folder.Found (files : Files) (commands : Path) (folder : Folder) : Prop where
  named : FileName folder.1
  there : files.look (commands.child folder.1).text = .ok (some (.directory folder.2))

namespace Compiler

variable {files files' : Files} {commands : Path} {lone : Text.StandIns} {folder : Folder}
variable {folders : List Folder} {compiler : Compiler}

theorem fileName_schemaFile : FileName schemaFile := by decide

theorem fileName_handlerFile : FileName handlerFile := by decide

-- The name of the handler is shorter than that of the schema.
theorem overlong_schemaFile {directory : Path} (names : directory.names ≠ [])
    (long : (directory.child handlerFile).Overlong) : (directory.child schemaFile).Overlong := by
  have shorter : handlerFile.utf8ByteSize ≤ schemaFile.utf8ByteSize := by decide
  unfold Path.Overlong at long ⊢
  rw [Path.size_child names] at long ⊢
  omega

/-- What a visit makes of the contribution of one directory: a failure ends it, of a gap it takes
note, and a command is given to the compiler, which refuses or accepts it. -/
inductive Takes (compiler : Compiler) : Except Failure Contribution → Visit → Prop
  | unread (failure : Failure) : Takes compiler (.error failure) ⟨compiler, [], some failure⟩
  | gap (directory file : String) :
    Takes compiler (.ok (.gap directory file)) (compiler.skip directory ("no " ++ file))
  | refused {schema handler fault} (refused : (compiler.compile schema handler).2 = .error fault) :
    Takes compiler (.ok (.command schema handler))
      ⟨(compiler.compile schema handler).1, [], some (.schema fault)⟩
  | accepted {schema handler command} (message : String)
    (accepted : (compiler.compile schema handler).2 = .ok command) :
    Takes compiler (.ok (.command schema handler))
      ⟨(compiler.compile schema handler).1, [(.debug, message)], none⟩

-- A schema that can be read is given to the compiler.
theorem takes_compileIn {directory : Path} {bytes : List UInt8}
    (read : files.read (directory.child schemaFile) = .ok bytes) (compiler : Compiler) :
    Takes compiler
      ((Schema.ofBytes (directory.child schemaFile) bytes lone).map fun schema =>
        .command schema (directory.child handlerFile))
      (compiler.compileIn files lone directory) := by
  unfold compileIn Schema.load
  rw [read]
  dsimp only
  cases Schema.ofBytes (directory.child schemaFile) bytes lone with
  | error failure => exact .unread failure
  | ok schema =>
    have refused := @Takes.refused compiler schema (directory.child handlerFile)
    have accepted := @Takes.accepted compiler schema (directory.child handlerFile)
    revert refused accepted
    dsimp only
    obtain ⟨next, fault | command⟩ := compiler.compile schema (directory.child handlerFile)
    · exact fun refused _ => refused rfl
    · exact fun _ accepted => accepted _ rfl

theorem takes_visit (found : folder.Found files commands) (compiler : Compiler) :
    Takes compiler (folder.contribution commands lone)
      (compiler.visit files lone (commands.child folder.1)) := by
  have named : (commands.child folder.1).Named := Path.named_child commands found.named
  have schema := Files.look_child named found.there fileName_schemaFile
  have handler := Files.look_child named found.there fileName_handlerFile
  have name : (commands.child folder.1).name = folder.1 :=
    congrArg (Option.getD · "") List.getLast?_concat
  unfold Folder.contribution visit Files.isFile
  dsimp only
  by_cases long : ((commands.child folder.1).child schemaFile).Overlong
  · rw [if_pos long] at schema ⊢
    rw [schema]
    exact .unread _
  · have short : ¬((commands.child folder.1).child handlerFile).Overlong := fun h =>
      long (overlong_schemaFile named.names h)
    rw [if_neg long] at schema ⊢
    rw [if_neg short] at handler
    rw [schema, handler, name]
    -- A directory under the name of a file is as good as nothing.
    cases entry : folder.2.lookup schemaFile with
    | none => exact .gap _ _
    | some node =>
      cases node with
      | directory => exact .gap _ _
      | file bytes executable =>
        cases folder.2.lookup handlerFile with
        | none => exact .gap _ _
        | some node =>
          cases node with
          | directory => exact .gap _ _
          | file =>
            exact takes_compileIn (Files.read_of_look (schema.trans (congrArg _ entry))) compiler

/-! ## 3. Walks -/

def accepted (compiler : Compiler) : List (Schema × Path) :=
  compiler.commands.map fun command => (command.schema, command.handler)

/-- A visit that has taken some contributions: to what the compiler had before it has added the
commands and the gaps, each of them once and in their order, and it has warned of the gaps. -/
structure Took (compiler : Compiler) (contributions : List Contribution) (visit : Visit) :
    Prop where
  commands : visit.compiler.accepted = compiler.accepted ++ Contribution.commands contributions
  skipped : visit.compiler.skipped = compiler.skipped ++ Contribution.gaps contributions
  warnings : (visit.records.filter fun record => record.1 = .warning) =
    (Contribution.gaps contributions).map warning

/-- What ends a walk before the given directories: there are none, or the first of them cannot be
read, or the compiler refuses what it contributes. -/
inductive Ends (commands : Path) (lone : Text.StandIns) (compiler : Compiler) :
    List Folder → Option Failure → Prop
  | all : Ends commands lone compiler [] none
  | unread {folder later failure}
    (unread : Folder.contribution commands lone folder = .error failure) :
    Ends commands lone compiler (folder :: later) (some failure)
  | refused {folder later schema handler fault}
    (read : Folder.contribution commands lone folder = .ok (.command schema handler))
    (refused : (compiler.compile schema handler).2 = .error fault) :
    Ends commands lone compiler (folder :: later) (some (.schema fault))

/-- A visit that has walked over some directories: it has taken the contributions of those before
the one that ends it. -/
def Walked (commands : Path) (lone : Text.StandIns) (compiler : Compiler) (folders : List Folder)
    (visit : Visit) : Prop :=
  ∃ before rest contributions, folders = before ++ rest ∧
    before.mapM (Folder.contribution commands lone) = .ok contributions ∧
    Took compiler contributions visit ∧
    Ends commands lone (compiler.compileAll (Contribution.commands contributions)) rest
      visit.failure

theorem took_nil {next : Compiler} {failure : Option Failure}
    (same : next.accepted = compiler.accepted ∧ next.skipped = compiler.skipped) :
    Took compiler [] ⟨next, [], failure⟩ :=
  ⟨same.1.trans (List.append_nil _).symm, same.2.trans (List.append_nil _).symm, rfl⟩

theorem Ends.of_skipped {skipped : List (String × String)} {failure : Option Failure}
    (h : Ends commands lone { compiler with skipped } folders failure) :
    Ends commands lone compiler folders failure := by
  cases h with
  | all => exact .all
  | unread unread => exact .unread unread
  | refused read refused =>
    rw [compile_skipped] at refused
    exact .refused read refused

theorem accepted_of_refused {schema : Schema} {handler : Path} {fault : SchemaFault}
    (refused : (compiler.compile schema handler).2 = .error fault) :
    (compiler.compile schema handler).1.accepted = compiler.accepted ∧
      (compiler.compile schema handler).1.skipped = compiler.skipped := by
  obtain ⟨registry, -, same⟩ := compile_of_refused refused
  rw [same]
  exact ⟨rfl, rfl⟩

theorem accepted_of_accepted {schema : Schema} {handler : Path} {command : Compiled}
    (taken : (compiler.compile schema handler).2 = .ok command) :
    (compiler.compile schema handler).1.accepted = compiler.accepted ++ [(schema, handler)] ∧
      (compiler.compile schema handler).1.skipped = compiler.skipped := by
  rcases compile_cases compiler schema handler with
    ⟨_, _, _, -, outcome⟩ | ⟨flags, registry, -, -, outcome⟩
  · rw [outcome] at taken
    cases taken
  · rw [outcome]
    exact ⟨List.map_append, rfl⟩

theorem Walked.behind_gap {directory file : String} {visit : Visit}
    (lacks : folder.contribution commands lone = .ok (.gap directory file))
    (rest : Walked commands lone (compiler.skip directory ("no " ++ file)).compiler folders visit) :
    Walked commands lone compiler (folder :: folders)
      { visit with
        records := (compiler.skip directory ("no " ++ file)).records ++ visit.records } := by
  obtain ⟨before, later, contributions, parts, reads, took, ends⟩ := rest
  refine ⟨folder :: before, later, .gap directory file :: contributions,
    congrArg (folder :: ·) parts, ?_, ⟨took.commands, ?_, ?_⟩, ?_⟩
  · rw [List.mapM_cons, lacks, reads]
    rfl
  · exact took.skipped.trans (List.append_assoc _ _ _)
  · exact congrArg (warning (directory, "no " ++ file) :: ·) took.warnings
  · have next := compileAll_skipped (Contribution.commands contributions) compiler
      (compiler.skip directory ("no " ++ file)).compiler.skipped
    exact (next ▸ ends).of_skipped

theorem Walked.behind_command {schema : Schema} {handler : Path} {command : Compiled}
    {message : String} {visit : Visit}
    (read : folder.contribution commands lone = .ok (.command schema handler))
    (taken : (compiler.compile schema handler).2 = .ok command)
    (rest : Walked commands lone (compiler.compile schema handler).1 folders visit) :
    Walked commands lone compiler (folder :: folders)
      { visit with records := [(.debug, message)] ++ visit.records } := by
  obtain ⟨before, later, contributions, parts, reads, took, ends⟩ := rest
  obtain ⟨more, kept⟩ := accepted_of_accepted taken
  refine ⟨folder :: before, later, .command schema handler :: contributions,
    congrArg (folder :: ·) parts, ?_, ⟨?_, ?_, took.warnings⟩, ends⟩
  · rw [List.mapM_cons, read, reads]
    rfl
  · exact took.commands.trans (by rw [more, List.append_assoc]; rfl)
  · exact took.skipped.trans (by rw [kept]; rfl)

-- By induction on the directories that are left, for every compiler that has come so far.
theorem walked_visitAll (found : ∀ folder ∈ folders, folder.Found files commands)
    (compiler : Compiler) :
    Walked commands lone compiler folders
      (visitAll files lone (folders.map fun folder => commands.child folder.1) compiler) := by
  induction folders generalizing compiler with
  | nil => exact ⟨[], [], [], rfl, rfl, took_nil ⟨rfl, rfl⟩, .all⟩
  | cons folder folders ih =>
    have others (next : Compiler) := ih (fun other h => found other (List.mem_cons_of_mem _ h)) next
    have takes : Takes compiler (folder.contribution commands lone)
        (compiler.visit files lone (commands.child folder.1)) :=
      takes_visit (found folder List.mem_cons_self) compiler
    rw [List.map_cons, visitAll]
    generalize given : folder.contribution commands lone = contribution at takes
    generalize compiler.visit files lone (commands.child folder.1) = first at takes ⊢
    cases takes with
    | unread failure =>
      exact ⟨[], folder :: folders, [], rfl, rfl, took_nil ⟨rfl, rfl⟩, .unread given⟩
    | gap directory file => exact (others _).behind_gap given
    | refused refused =>
      exact ⟨[], folder :: folders, [], rfl, rfl, took_nil (accepted_of_refused refused),
        .refused given refused⟩
    | accepted message accepted => exact (others _).behind_command given accepted

/-! ## 4. The files behind a walk -/

-- What is looked at inside a directory is the same if the directory is.
theorem look_congr (found : folder.Found files commands) (found' : folder.Found files' commands)
    {file : String} (h : FileName file) :
    files.look ((commands.child folder.1).child file).text =
      files'.look ((commands.child folder.1).child file).text := by
  have named : (commands.child folder.1).Named := Path.named_child commands found.named
  rw [Files.look_child named found.there h, Files.look_child named found'.there h]

theorem visit_congr (found : folder.Found files commands) (found' : folder.Found files' commands)
    (compiler : Compiler) :
    compiler.visit files lone (commands.child folder.1) =
      compiler.visit files' lone (commands.child folder.1) := by
  have schema := look_congr found found' fileName_schemaFile
  unfold visit Files.isFile
  rw [schema, look_congr found found' fileName_handlerFile]
  -- The files count apart from these looks only if both files are there.
  rcases looked : files'.look ((commands.child folder.1).child schemaFile).text with
    fault | _ | ⟨bytes, executable⟩ | inner
  · rfl
  · rfl
  · have read := Files.read_of_look (schema.trans looked)
    have read' := Files.read_of_look looked
    have load : Schema.load files ((commands.child folder.1).child schemaFile) lone =
        Schema.load files' ((commands.child folder.1).child schemaFile) lone := by
      rw [Schema.load, Schema.load, read, read']
    unfold compileIn
    rw [load]
  · rfl

theorem visitAll_congr (found : ∀ folder ∈ folders, folder.Found files commands)
    (found' : ∀ folder ∈ folders, folder.Found files' commands) (compiler : Compiler) :
    visitAll files lone (folders.map fun folder => commands.child folder.1) compiler =
      visitAll files' lone (folders.map fun folder => commands.child folder.1) compiler := by
  induction folders generalizing compiler with
  | nil => rfl
  | cons folder folders ih =>
    rw [List.map_cons, visitAll, visitAll,
      visit_congr (found folder List.mem_cons_self) (found' folder List.mem_cons_self)]
    dsimp only
    rw [ih (fun other h => found other (List.mem_cons_of_mem _ h))
      (fun other h => found' other (List.mem_cons_of_mem _ h))]

theorem standInsFor_congr (found : ∀ folder ∈ folders, folder.Found files commands)
    (found' : ∀ folder ∈ folders, folder.Found files' commands) :
    standInsFor files (folders.map fun folder => commands.child folder.1) =
      standInsFor files' (folders.map fun folder => commands.child folder.1) := by
  unfold standInsFor
  rw [List.filterMap_map, List.filterMap_map]
  refine congrArg Json.standIns (List.filterMap_congr fun folder h => ?_)
  dsimp only [Function.comp]
  rw [Files.toOption_read_congr (look_congr (found folder h) (found' folder h) fileName_schemaFile)]

/-! ## 5. Projects -/

variable {entries : List (String × Node)}

theorem look_entry (named : commands.Named)
    (there : files.look commands.text = .ok (some (.directory entries)))
    (listing : Listing entries) {name : String} {node : Node} (entry : (name, node) ∈ entries) :
    files.look (commands.child name).text =
      if (commands.child name).Overlong then
        .error (.refused .nameTooLong (commands.child name).text)
      else .ok (some node) := by
  rw [Files.look_child named there (listing.names _ entry),
    (Table.lookup_eq_some_iff listing.distinct).mpr entry]

def overlong? (commands : Path) (entries : List (String × Node)) : Option (String × Node) :=
  entries.find? fun entry => decide (commands.child entry.1).Overlong

theorem overlong?_cons (commands : Path) (name : String) (node : Node)
    (entries : List (String × Node)) :
    overlong? commands ((name, node) :: entries) =
      if (commands.child name).Overlong then some (name, node) else overlong? commands entries := by
  rw [overlong?, List.find?_cons]
  by_cases long : (commands.child name).Overlong
  · rw [decide_eq_true long, if_pos long]
  · rw [decide_eq_false long, if_neg long]
    rfl

-- Every entry is looked at, and the first that cannot be is what comes of it.
theorem directoriesAmong_eq (named : commands.Named)
    (there : files.look commands.text = .ok (some (.directory entries)))
    (listing : Listing entries) {rows : List (String × Node)} (within : rows ⊆ entries) :
    directoriesAmong files commands (rows.map Prod.fst) =
      match overlong? commands rows with
      | some entry => .error (.refused .nameTooLong (commands.child entry.1).text)
      | none => .ok ((rows.filterMap Folder.directory?).map Prod.fst) := by
  induction rows with
  | nil => rfl
  | cons row rows ih =>
    obtain ⟨name, node⟩ := row
    obtain ⟨entry, within⟩ := List.cons_subset.mp within
    have looked := look_entry named there listing entry
    rw [List.map_cons, directoriesAmong, Files.isDirectory, overlong?_cons]
    by_cases long : (commands.child name).Overlong
    · rw [if_pos long] at looked ⊢
      rw [looked]
      rfl
    · rw [if_neg long] at looked ⊢
      rw [looked, ih within]
      cases overlong? commands rows with
      | some other => cases node <;> rfl
      | none => cases node <;> rfl

theorem fileName_commandsDirectory : FileName commandsDirectory := by decide

theorem compileProject_eq {project : Path}
    (there : files.look (project.child commandsDirectory).text = .ok (some (.directory entries)))
    (listing : Listing entries) (compiler : Compiler) :
    compiler.compileProject files project =
      match overlong? (project.child commandsDirectory) entries with
      | some entry =>
        compiler.stoppedBy
          (.refused .nameTooLong ((project.child commandsDirectory).child entry.1).text)
      | none =>
        let directories := (Folder.among entries).map fun folder =>
          (project.child commandsDirectory).child folder.1
        visitAll files (standInsFor files directories) directories compiler := by
  have named : (project.child commandsDirectory).Named :=
    Path.named_child project fileName_commandsDirectory
  have isOne : files.isDirectory (project.child commandsDirectory) = .ok true := by
    rw [Files.isDirectory, there]
    rfl
  have listed : files.entries (project.child commandsDirectory) = entries := by
    obtain ⟨place, located⟩ := Files.look_eq_some_iff.mp there
    rw [Files.entries, located]
  have looked := directoriesAmong_eq named there listing (List.Subset.refl entries)
  cases long : overlong? (project.child commandsDirectory) entries with
  | some entry =>
    rw [long] at looked
    unfold compileProject directoriesIn
    dsimp only
    rw [isOne, listed, looked]
    rfl
  | none =>
    rw [long] at looked
    have perm : ((Folder.among entries).map Prod.fst).Perm
        ((entries.filterMap Folder.directory?).map Prod.fst) :=
      (List.mergeSort_perm _ _).map Prod.fst
    have ordered : ((Folder.among entries).map Prod.fst).Pairwise (· ≤ ·) :=
      List.pairwise_map.mpr ((Folder.among_pairwise listing.distinct).imp le_of_lt)
    have among : directoriesAmong files (project.child commandsDirectory)
        ((files.entries (project.child commandsDirectory)).map Prod.fst) = _ :=
      (congrArg (fun rows => directoriesAmong files _ (rows.map Prod.fst)) listed).trans looked
    rw [compileProject_of_found isOne (directoriesIn_of_perm among perm ordered), List.map_map]
    rfl

theorem found_of_mem_among (named : commands.Named)
    (there : files.look commands.text = .ok (some (.directory entries)))
    (listing : Listing entries) (short : overlong? commands entries = none) :
    ∀ folder ∈ Folder.among entries, folder.Found files commands := by
  intro folder h
  have entry : (folder.1, Node.directory folder.2) ∈ entries := Folder.mem_among_iff.mp h
  have looked := look_entry named there listing entry
  rw [if_neg (by simpa using List.find?_eq_none.mp short _ entry)] at looked
  exact ⟨listing.names _ entry, looked⟩

/-- If no path of an entry is too long, the visit of a project is a walk over the directories among
the entries in the order of their names, and it is the same in whatever order the entries are
listed.  If one is, the first of these ends the visit before anything is done. -/
theorem walked_compileProject {files : Files} {project : Path} {entries : List (String × Node)}
    (there : files.look (project.child commandsDirectory).text = .ok (some (.directory entries)))
    (listing : Listing entries) :
    let commands := project.child commandsDirectory
    let folders := Folder.among entries
    let lone := standInsFor files (folders.map fun folder => commands.child folder.1)
    let visit := fresh.compileProject files project
    (folders.Pairwise (fun a b => a.1 < b.1) ∧
        ∀ name inner, (name, inner) ∈ folders ↔ (name, .directory inner) ∈ entries) ∧
      (overlong? commands entries = none →
        Walked commands lone fresh folders visit ∧
          ∀ (files' : Files) (entries' : List (String × Node)),
            files'.look commands.text = .ok (some (.directory entries')) →
              entries'.Perm entries → fresh.compileProject files' project = visit) ∧
      ∀ entry, overlong? commands entries = some entry →
        visit = fresh.stoppedBy (.refused .nameTooLong (commands.child entry.1).text) := by
  intro commands folders lone visit
  have named : commands.Named := Path.named_child project fileName_commandsDirectory
  refine ⟨⟨Folder.among_pairwise listing.distinct, fun name inner => Folder.mem_among_iff⟩,
    fun short => ?_, fun entry long => ?_⟩
  · have found := found_of_mem_among named there listing short
    have visited : visit = visitAll files lone (folders.map fun folder => commands.child folder.1)
        fresh := by
      show fresh.compileProject files project = _
      rw [compileProject_eq there listing, short]
    constructor
    · rw [visited]
      exact walked_visitAll found fresh
    · intro files' entries' there' perm
      have listing' : Listing entries' := listing.perm perm
      have short' : overlong? commands entries' = none := by
        refine List.find?_eq_none.mpr fun entry h => ?_
        exact List.find?_eq_none.mp short entry (perm.mem_iff.mp h)
      have found' := found_of_mem_among named there' listing' short'
      rw [Folder.among_perm listing.distinct perm] at found'
      rw [compileProject_eq there' listing', short', Folder.among_perm listing.distinct perm,
        visited]
      dsimp only
      rw [standInsFor_congr found' found]
      exact visitAll_congr found' found fresh
  · show fresh.compileProject files project = _
    rw [compileProject_eq there listing, long]

def plainSchema : String := "\x7b\"name\": \"greet\", \"description\": \"Greet someone\"\x7d"

def plainEntries : List (String × Node) :=
  [("schema.json", .file (Text.Utf8.encode plainSchema) false), ("main.py", .file [] false)]

def unsorted : List (String × Node) :=
  [("greet", .directory plainEntries), ("notes.txt", .file [] false),
    ("bare", .directory [("schema.json", .file [] false)])]

def unsortedProject : Files := ⟨.directory [("commands", .directory unsorted)], []⟩

theorem walked_unsorted :
    unsortedProject.look (Path.child ⟨0, []⟩ commandsDirectory).text =
        .ok (some (.directory unsorted)) ∧
      Listing unsorted ∧ overlong? (Path.child ⟨0, []⟩ commandsDirectory) unsorted = none ∧
      ∃ lone, Walked (Path.child ⟨0, []⟩ commandsDirectory) lone fresh
        [("bare", [("schema.json", .file [] false)]), ("greet", plainEntries)]
        (fresh.compileProject unsortedProject ⟨0, []⟩) := by
  have there : unsortedProject.look (Path.child ⟨0, []⟩ commandsDirectory).text =
      .ok (some (.directory unsorted)) := rfl
  have listing : Listing unsorted := ⟨by decide +kernel, by decide +kernel⟩
  have short : overlong? (Path.child ⟨0, []⟩ commandsDirectory) unsorted = none := rfl
  have walked := ((walked_compileProject there listing).2.1 short).1
  rw [Folder.among_eq listing.distinct (List.Perm.swap _ _ _) (by decide)] at walked
  exact ⟨there, listing, short, _, walked⟩

/-- A way back to the current directory, which goes in and out of another one. -/
def detour : Path := ⟨0, (List.replicate 813 ["d", ".."]).flatten⟩

def litter : List (String × Node) :=
  [("greet", .directory plainEntries), ("release-notes-draft.txt", .file [] false)]

def littered : Files := ⟨.directory [("d", .directory []), ("commands", .directory litter)], []⟩

theorem follow_detour (n : Nat) (names : List String) :
    Files.follow littered.root ((List.replicate n ["d", ".."]).flatten ++ names) [] =
      Files.follow littered.root names [] := by
  induction n with
  | zero => rfl
  | succ n ih => exact ih

theorem size_detour : (detour.child commandsDirectory).text.utf8ByteSize = 4073 := by
  have there_and_back : (["d", ".."].map fun name => name.utf8ByteSize + 1).sum = 5 := by decide
  have last : commandsDirectory.utf8ByteSize = 8 := by decide
  rw [detour, Path.size_relative, last, List.map_flatten, List.sum_flatten, List.map_replicate,
    List.map_replicate, there_and_back, List.sum_replicate_nat]

theorem plain_detour : ∀ name ∈ detour.names,
    name ≠ "" ∧ '/' ∉ name.toList ∧ '\x00' ∉ name.toList := by
  have each : ∀ name ∈ ["d", ".."],
      name ≠ "" ∧ '/' ∉ name.toList ∧ '\x00' ∉ name.toList := by
    decide
  intro name h
  obtain ⟨names, hnames, h⟩ := List.mem_flatten.mp h
  rw [List.eq_of_mem_replicate hnames] at h
  exact each name h

theorem look_littered :
    littered.look (detour.child commandsDirectory).text = .ok (some (.directory litter)) := by
  have text : (detour.child commandsDirectory).text =
      Text.join "/" (detour.names ++ [commandsDirectory]) :=
    Path.text_relative (List.concat_ne_nil _ _)
  have null : '\x00' ∉ (detour.child commandsDirectory).text.toList := by
    rw [text]
    refine fun h => Text.forall_mem_join (p := (· ≠ '\x00')) (by decide) ?_ _ h rfl
    rintro part hpart c hc rfl
    rcases List.mem_append.mp hpart with hpart | hpart
    · exact (plain_detour part hpart).2.2 hc
    · rw [List.mem_singleton.mp hpart] at hc
      exact fileName_commandsDirectory.null hc
  have filled : (detour.child commandsDirectory).text ≠ "" := by
    intro none
    have size := size_detour
    rw [none] at size
    cases size
  have short : ¬Files.pathLimit ≤ (detour.child commandsDirectory).text.utf8ByteSize := by
    rw [size_detour]
    decide
  have names : Files.namesOf (detour.child commandsDirectory).text =
      detour.names ++ [commandsDirectory] :=
    Path.namesOf_relative (fun name h => ⟨(plain_detour name h).1, (plain_detour name h).2.1⟩)
      fileName_commandsDirectory
  have start : littered.startOf (detour.child commandsDirectory).text = [] := ite_self []
  refine Files.look_eq_some_iff.mpr
    ⟨["commands"], Files.locate_eq_ok_iff.mpr ⟨null, filled, short, ?_⟩⟩
  rw [names, start]
  exact (follow_detour 813 [commandsDirectory]).trans rfl

-- The schema is read and accepted, wherever the directory is.
theorem contribution_plainEntries {commands : Path} (lone : Text.StandIns)
    (short : ¬((commands.child "greet").child schemaFile).Overlong) :
    ∃ schema handler command,
      Folder.contribution commands lone ("greet", plainEntries) = .ok (.command schema handler) ∧
        (fresh.compile schema handler).2 = .ok command := by
  have read : Json.read (Text.unifyNewlines plainSchema.toList) lone =
      .ok (.object [("name", .string "greet"), ("description", .string "Greet someone")]) := by
    cbv
  let path : Path := (commands.child "greet").child schemaFile
  let handler : Path := (commands.child "greet").child handlerFile
  let schema : Schema := ⟨"greet", "Greet someone", [], some path, lone⟩
  have loaded : Schema.ofBytes path (Text.Utf8.encode plainSchema) lone = .ok schema := by
    unfold Schema.ofBytes
    rw [Text.Utf8.decode_encode]
    dsimp only
    rw [read]
    rfl
  have isName : Check.isName "greet" = true := by decide
  have free : "greet" ∉ fresh.catalogue.commands := by decide
  have checked : fresh.checkSchema schema = .ok [] :=
    checkSchema_eq_ok_iff.mpr ⟨isName, free, List.forall_mem_nil _, rfl⟩
  refine ⟨schema, handler, ⟨schema, handler, moduleName "greet", []⟩, ?_, ?_⟩
  · unfold Folder.contribution
    rw [if_neg short]
    exact congrArg (Except.map _) loaded
  · rw [compile, checked]
    rfl

-- A stray file with a long name is looked at like all entries, and the command beside it is not
-- compiled.
theorem not_walked_littered :
    littered.look (detour.child commandsDirectory).text = .ok (some (.directory litter)) ∧
      Listing litter ∧
      (∀ lone, ∃ schema handler command,
        Folder.contribution (detour.child commandsDirectory) lone ("greet", plainEntries) =
            .ok (.command schema handler) ∧
          (fresh.compile schema handler).2 = .ok command) ∧
      (fresh.compileProject littered detour).compiler.commands = [] ∧
      ∀ lone, ¬Walked (detour.child commandsDirectory) lone fresh [("greet", plainEntries)]
        (fresh.compileProject littered detour) := by
  have listing : Listing litter := ⟨by decide +kernel, by decide +kernel⟩
  have named : (detour.child commandsDirectory).Named :=
    Path.named_child detour fileName_commandsDirectory
  have size (name : String) : ((detour.child commandsDirectory).child name).text.utf8ByteSize =
      4074 + name.utf8ByteSize := by
    rw [Path.size_child named.names, size_detour]
  have greet : "greet".utf8ByteSize = 5 := by decide
  have stray : "release-notes-draft.txt".utf8ByteSize = 23 := by decide
  have short : ¬((detour.child commandsDirectory).child "greet").Overlong := by
    rw [Path.Overlong, size, greet]
    decide
  have short' : ¬(((detour.child commandsDirectory).child "greet").child schemaFile).Overlong := by
    have schema : schemaFile.utf8ByteSize = 11 := by decide
    rw [Path.Overlong, Path.size_child (List.concat_ne_nil _ _), size, greet, schema]
    decide
  have long : ((detour.child commandsDirectory).child "release-notes-draft.txt").Overlong := by
    rw [Path.Overlong, size, stray]
    decide
  have first : overlong? (detour.child commandsDirectory) litter =
      some ("release-notes-draft.txt", .file [] false) := by
    rw [litter, overlong?_cons, if_neg short, overlong?_cons, if_pos long]
  have visited := compileProject_eq look_littered listing fresh
  rw [first] at visited
  dsimp only at visited
  refine ⟨look_littered, listing, fun lone => contribution_plainEntries lone short', ?_, ?_⟩
  · rw [visited]
    rfl
  · rintro lone ⟨before, rest, contributions, parts, -, -, ends⟩
    rw [visited] at ends
    cases ends with
    | @unread folder later _ unread =>
      have only : folder ∈ [("greet", plainEntries)] := by
        rw [parts]
        exact List.mem_append_right _ List.mem_cons_self
      rw [List.mem_singleton.mp only] at unread
      obtain ⟨_, _, _, read, -⟩ := contribution_plainEntries lone short'
      cases unread.symm.trans read

end Compiler

end Toolsmith
