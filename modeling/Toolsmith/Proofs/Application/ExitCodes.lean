import Toolsmith.Proofs.Application.Boundary
/-!
# Exit codes of command lines

If the handlers of an application do their work and give back nothing, then only the log file can
make a run end with the code of a failure that nobody foresaw (`code_eq_unforeseen_iff`): whatever
else is wrong with a command line is a failure of usage or of validation.  The refusal to make the
directory for a log file is such a failure too, but a log file that cannot be opened is not.
-/

namespace Toolsmith

theorem Kind.exitCode_ne_success (kind : Kind) : kind.exitCode ≠ ExitCode.success := by
  cases kind <;> decide

-- No failure is reported as a success.
theorem Failure.exitCode_ne_success (failure : Failure) : failure.exitCode ≠ ExitCode.success := by
  unfold exitCode
  split
  · decide
  · cases failure.kind? with
    | none => exact (by decide : ExitCode.unforeseen ≠ ExitCode.success)
    | some kind => exact kind.exitCode_ne_success

/-! ## 1. Log files -/

namespace World

/-- Why a log file cannot be had, apart from a refusal to make the directory for it: the directory
is not asked for, or the file in it cannot be opened. -/
@[mk_iff]
inductive LogRefused (world : World) (file : String) : Files.Fault → Prop
  | directory {files : Files} {fault : Files.Fault} (named : file ≠ "")
      (made : world.files.makeDirectories (Path.ofText file).parent = (files, some fault))
      (unrefused : ∀ reason path, fault ≠ .refused reason path) : LogRefused world file fault
  | file {files : Files} {fault : Files.Fault} (named : file ≠ "")
      (made : world.files.makeDirectories (Path.ofText file).parent = (files, none))
      (unopened : files.openEnd (logPath files.here (Path.ofText file)) = .error fault) :
      LogRefused world file fault

theorem setUpLog_eq_accident_iff {world : World} {level file : String} {fault : Files.Fault}
    {rank : Nat} (known : Log.threshold level = .ok rank) :
    (world.setUpLog level (some file)).2 = some (.accident (.files fault)) ↔
      world.LogRefused file fault := by
  rw [logRefused_iff, setUpLog, known]
  dsimp only
  by_cases named : file = ""
  · have unasked : (some file).filter (· ≠ "") = none := by simp [named]
    rw [unasked]
    simp [named]
  · have asked : (some file).filter (· ≠ "") = some file := by simp [named]
    rw [asked]
    dsimp only
    rcases world.files.makeDirectories (Path.ofText file).parent with ⟨files, _ | refusal⟩
    · cases opened : files.openEnd (logPath files.here (Path.ofText file)) with
      | ok result => simp [opened]
      | error refusal => simp [named, opened]
    · cases refusal with
      | refused reason path =>
        have refused (h : Files.Fault.refused reason path = fault) :
            ∃ reason path, fault = .refused reason path := ⟨reason, path, h.symm⟩
        simpa [named] using refused
      | nullCharacter =>
        have unrefused (h : Files.Fault.nullCharacter = fault) :
            ∀ reason path, fault ≠ .refused reason path := h ▸ nofun
        simpa [named] using unrefused
      | tooManyMissing =>
        have unrefused (h : Files.Fault.tooManyMissing = fault) :
            ∀ reason path, fault ≠ .refused reason path := h ▸ nofun
        simpa [named] using unrefused

end World

/-! ## 2. Handlers that give back nothing -/

/-- A task for a command that ends in every session, without a failure and with nothing to give
back. -/
def Task.Returns (host : Surroundings) (command : String) (task : Task) : Prop :=
  ∀ s : Session, (s.perform host command task).2 = .ok .nothing

/-- Commands that are either built-in ones or have handlers of their own that give back nothing. -/
structure Commands.Returning (host : Surroundings) (commands : Commands Task) : Prop where
  conventions : commands.conventions = Application.conventions
  handlers : ∀ command ∈ commands.registered,
    (∃ task, command.handler = some task ∧ task.handler.Returns host command.name) ∨
      command.handler = none ∧ ∃ which : Builtin, command.name = which.name

-- The built-in tasks cannot fail, apart from the one that looks for a script.
theorem Builtin.returns {host : Surroundings} {which : Builtin} (other : which ≠ .completion)
    (command : String) : Task.Returns host command (.builtin which) := by
  intro s
  cases which with
  | completion => exact absurd rfl other
  | help | version | commands => rfl

theorem Commands.Returning.exists_handler {host : Surroundings} {commands : Commands Task}
    (returning : commands.Returning host) {word : String} (known : commands.has word = true)
    (other : word ≠ Builtin.completion.name) :
    ∃ task, commands.handler? word = some task ∧ task.handler.Returns host word := by
  obtain ⟨command, found⟩ := Option.isSome_iff_exists.mp known
  have registered : command ∈ commands.registered := List.mem_of_find?_eq_some found
  obtain rfl := name_of_find? found
  rcases returning.handlers command registered with
    ⟨task, explicit, returns⟩ | ⟨implicit, which, name⟩
  · exact ⟨task, handler?_eq_some_iff.mpr ⟨command, found, .inl explicit⟩, returns⟩
  · have different : which ≠ .completion := by
      rintro rfl
      exact other name
    refine ⟨⟨some (conventionalName which.name), .builtin which⟩,
      handler?_eq_some_iff.mpr ⟨command, found, .inr ⟨implicit, ?_⟩⟩,
      Builtin.returns different command.name⟩
    rw [returning.conventions, name]
    exact Application.get?_conventions which

namespace Session

variable {host : Surroundings} {s : Session} {word : String} {tokens words : List String}

theorem execute_of_returning (returning : s.app.commands.Returning host)
    (known : s.app.commands.has word = true) (other : word ≠ Builtin.completion.name) :
    (s.execute host word).2 = .ok ExitCode.success := by
  obtain ⟨task, found, returns⟩ := returning.exists_handler known other
  unfold execute
  rw [found]
  dsimp only
  have done := returns (s.record host "" .debug ("Executing command: " ++ word))
  revert done
  generalize perform host word task.handler _ = outcome
  obtain ⟨t, result⟩ := outcome
  rintro rfl
  rfl

/-! ## 3. Runs -/

/-- A command line that can be read, and that names a log file that cannot be had. -/
inductive Unlogged (s : Session) : List String → Files.Fault → Prop
  | intro {word : String} {tokens : List String} {flags : Registry} {fault : Files.Fault}
      (help : word ∉ helpWords) (version : word ∉ versionWords)
      (known : s.app.commands.has word = true)
      (read : s.app.flags.parse s.world.files word tokens = (flags, none))
      (refused : s.world.LogRefused (flags.value "log-file") fault) :
      Unlogged s (word :: tokens) fault

theorem threshold_levelName (flags : Registry) :
    ∃ rank, Log.threshold (levelName flags) = .ok rank := by
  unfold levelName
  split
  · exact ⟨10, rfl⟩
  · split
    · exact ⟨60, rfl⟩
    · exact ⟨20, rfl⟩

theorem setUp_eq_accident_iff {flags : Registry} {fault : Files.Fault} :
    ((s.entered word flags).setUp host).2 = some (.accident (.files fault)) ↔
      s.world.LogRefused (flags.value "log-file") fault := by
  obtain ⟨rank, known⟩ := threshold_levelName flags
  rw [setUp_snd]
  exact World.setUpLog_eq_accident_iff known

theorem dispatch_of_unlogged {fault : Files.Fault} (unlogged : s.Unlogged words fault) :
    (s.dispatch host words).2 = .error (.accident (.files fault)) := by
  obtain @⟨word, tokens, flags, _, help, version, known, read, refused⟩ := unlogged
  have failed : ((s.entered word flags).setUp host).2 = some (.accident (.files fault)) :=
    setUp_eq_accident_iff.mpr refused
  rw [dispatch_of_read help version known read]
  revert failed
  obtain ⟨t, failure?⟩ := (s.entered word flags).setUp host
  rintro rfl
  rfl

/-- How the run of a command line can end, before the user is told. -/
theorem dispatch_cases (returning : s.app.commands.Returning host)
    (other : words.head? ≠ some Builtin.completion.name) :
    (s.dispatch host words).2 = .ok ExitCode.success ∨
      (∃ fault, (s.dispatch host words).2 = .error (.usage fault)) ∨
        (∃ fault, (s.dispatch host words).2 = .error (.validation fault)) ∨
          ∃ fault, s.Unlogged words fault := by
  cases words with
  | nil => exact .inl rfl
  | cons word tokens =>
    by_cases help : word ∈ helpWords
    · rw [dispatch_of_mem_helpWords help]
      exact .inl rfl
    by_cases version : word ∈ versionWords
    · rw [dispatch_of_mem_versionWords version]
      exact .inl rfl
    rcases known : s.app.commands.has word with _ | _
    · rw [dispatch_of_unknown help version known]
      exact .inr (.inl ⟨_, rfl⟩)
    rcases read : s.app.flags.parse s.world.files word tokens with ⟨flags, _ | failure⟩
    · rw [dispatch_of_read help version known read]
      rcases prepared : (s.entered word flags).setUp host with ⟨t, _ | failure⟩
      · dsimp only
        split
        next => exact .inl rfl
        next =>
          rw [← commands_of_setUp prepared] at returning known
          exact .inl (execute_of_returning returning known fun same => other (congrArg some same))
      · rcases (prepared_of_setUp prepared).kind failure rfl with ⟨fault, rfl⟩ | ⟨fault, rfl⟩
        · exact .inr (.inr (.inl ⟨fault, rfl⟩))
        · have refused := setUp_eq_accident_iff.mp (congrArg Prod.snd prepared)
          exact .inr (.inr (.inr ⟨fault, .intro help version known read refused⟩))
    · rw [dispatch_of_misread help version known read]
      rcases Registry.failure_of_parse (congrArg Prod.snd read) with ⟨fault, rfl⟩ | ⟨fault, rfl⟩
      · exact .inr (.inl ⟨fault, rfl⟩)
      · exact .inr (.inr (.inl ⟨fault, rfl⟩))

theorem run_snd (host : Surroundings) (words : List String) (s : Session) :
    (s.run host words).2 =
      match (s.dispatch host words).2 with
      | .ok code => code
      | .error failure => failure.exitCode := by
  unfold run
  obtain ⟨t, failure | code⟩ := s.dispatch host words <;> rfl

-- A run succeeds if it does before the user is told.
theorem run_eq_success_iff {out : String} :
    (s.run host words).2 = ExitCode.success ∧ (s.run host words).1.world.out = out ↔
      (s.dispatch host words).2 = .ok ExitCode.success ∧
        (s.dispatch host words).1.world.out = out := by
  unfold run
  obtain ⟨t, failure | code⟩ := s.dispatch host words
  · simp [failure.exitCode_ne_success]
  · simp

theorem run_of_unlogged {fault : Files.Fault} (unlogged : s.Unlogged words fault) :
    (s.run host words).2 = 4 := by
  rw [run_snd, dispatch_of_unlogged unlogged]
  rfl

theorem run_cases (returning : s.app.commands.Returning host)
    (other : words.head? ≠ some "completion") :
    (s.run host words).2 ∈ [0, 1, 2] ∨ ∃ fault, s.Unlogged words fault := by
  rw [run_snd]
  rcases dispatch_cases returning other with done | ⟨fault, failed⟩ | ⟨fault, failed⟩ | unlogged
  · rw [done]
    exact .inl (.head _)
  · rw [failed]
    exact .inl (.tail _ (.head _))
  · rw [failed]
    exact .inl (.tail _ (.tail _ (.head _)))
  · exact .inr unlogged

/-- If all handlers give back nothing, a run ends with the code of a failure that nobody foresaw if
and only if its command line names a log file that cannot be had.  Every other run ends with the
code of success, of a failure of usage or of a failure of validation. -/
theorem code_eq_unforeseen_iff (returning : s.app.commands.Returning host)
    (other : words.head? ≠ some "completion") :
    ((s.run host words).2 = 4 ↔ ∃ fault, s.Unlogged words fault) ∧
      ((s.run host words).2 ≠ 4 → (s.run host words).2 ∈ [0, 1, 2]) := by
  have foreseen : (4 : Int) ∉ [0, 1, 2] := by decide
  rcases run_cases returning other with code | ⟨fault, unlogged⟩
  · have ne : (s.run host words).2 ≠ 4 := by
      intro same
      rw [same] at code
      exact foreseen code
    refine ⟨⟨fun same => absurd same ne, ?_⟩, fun _ => code⟩
    rintro ⟨fault, unlogged⟩
    exact run_of_unlogged unlogged
  · have code : (s.run host words).2 = 4 := run_of_unlogged unlogged
    exact ⟨⟨fun _ => ⟨fault, unlogged⟩, fun _ => code⟩, fun other => absurd code other⟩

def idle : Session :=
  let file : Definition := ⟨{ long := "log-file" }, .text, ValueType.ofText_string⟩
  ⟨{ Application.fresh "app" "1.0.0" "" .empty false with
      flags := { Registry.withShell with
        definitions := Registry.withShell.definitions ++ [file] }
      commands := { Application.builtinCommands with
        registered := Application.builtinCommands.registered ++
          [⟨"work", "", some ⟨none, .handler (.done .nothing)⟩⟩] } },
    .fresh ⟨.directory [("dir", .directory []), ("notes", .file [] false)], []⟩, []⟩

theorem returning_idle (host : Surroundings) : idle.app.commands.Returning host := by
  refine ⟨rfl, ?_⟩
  intro command registered
  rcases List.mem_append.mp registered with builtin | last
  · obtain ⟨which, -, rfl⟩ := List.mem_map.mp builtin
    exact .inr ⟨rfl, which, rfl⟩
  · obtain rfl := List.mem_singleton.mp last
    exact .inl ⟨_, rfl, fun _ => rfl⟩

/-- A log file that can be had does no harm, nor does a refusal to make the directory for it. -/
theorem code_idle :
    idle.app.commands.Returning nowhere ∧
      (idle.run nowhere ["work", "--log-file", "log.txt"]).2 ∈ [0, 1, 2] ∧
      (idle.run nowhere ["work", "--log-file", "notes/log.txt"]).2 = 2 ∧
      ¬∃ fault, idle.Unlogged ["work", "--log-file", "notes/log.txt"] fault := by
  have returning := returning_idle nowhere
  have other : ["work", "--log-file", "log.txt"].head? ≠ some "completion" := by decide
  have other' : ["work", "--log-file", "notes/log.txt"].head? ≠ some "completion" := by decide
  have first := code_eq_unforeseen_iff returning other
  have second := code_eq_unforeseen_iff returning other'
  have code : (idle.run nowhere ["work", "--log-file", "log.txt"]).2 = 0 := by decide +kernel
  have code' : (idle.run nowhere ["work", "--log-file", "notes/log.txt"]).2 = 2 := by
    decide +kernel
  refine ⟨returning, first.2 ?_, code', fun refused => ?_⟩
  · rw [code]
    decide
  · rw [second.1.mpr refused] at code'
    cases code'

/-- The name of a directory is a value that everybody can type, and the run ends with the code of a
failure that nobody foresaw. -/
theorem code_idle_dir :
    idle.app.commands.Returning nowhere ∧
      ["work", "--log-file", "dir"].head? ≠ some "completion" ∧
      (idle.run nowhere ["work", "--log-file", "dir"]).2 = 4 ∧
      (idle.run nowhere ["work", "--log-file", "dir"]).1.world.err =
        "Error: Unexpected error. Please report this issue.\n" ++
          "Hint: IsADirectoryError: [Errno 21] Is a directory: '/dir'\n" :=
  ⟨returning_idle nowhere, by decide, by decide +kernel, by decide +kernel⟩

end Session

end Toolsmith
