import Toolsmith.Proofs.Application.Calls
/-!
# What a session keeps

Nothing that a command does changes the application: only the world and the replies change
(`doWork_app`).  Of the log it needs the setup and nothing else, since the parts of the framework
that it uses hang below the framework whatever other parts there are.  So all that a command does is
the same in a session with the other parts left out (`doWork_undotted`).
-/

namespace Toolsmith

/-! ## 1. Parts of the log -/

namespace Log

@[simp] theorem leadingDots_commandPart (command : String) :
    leadingDots (commandPart command) = 0 := by
  simp [leadingDots, commandPart, String.toList_append]

variable {log : Log} {part : String}

theorem setupFor_of_leadingDots (named : leadingDots part = 0) : log.setupFor part = log.setup := by
  unfold setupFor
  rw [named]
  rfl

@[simp] theorem setupFor_root : log.setupFor "" = log.setup := rfl

theorem withPart_of_leadingDots (named : leadingDots part = 0) : log.withPart part = log := by
  unfold withPart
  rw [named]
  refine if_neg ?_
  rintro ⟨nonempty, length⟩
  exact nonempty (String.length_eq_zero_iff.mp length.symm)

end Log

namespace Session

variable (host : Surroundings) (command : String) (s : Session)

/-! ## 2. The application -/

@[simp] theorem runProgram_app (words : List String) (capture : Bool) :
    (s.runProgram host command words capture).1.app = s.app := by
  unfold runProgram
  repeat' split
  all_goals rfl

@[simp] theorem answer_app (request : Request) :
    (s.answer host command request).1.app = s.app := by
  cases request with
  | runProgram words capture => exact runProgram_app host command s words capture
  | out | success | warning | requireProgram =>
    dsimp only [answer]
    split <;> rfl
  | _ => rfl

@[simp] theorem follow_app (handler : Handler) : (follow host command handler s).1.app = s.app := by
  induction handler generalizing s with
  | done value => rfl
  | fail failure => rfl
  | attempt request next ih =>
    have kept := answer_app host command s request
    unfold follow
    split
    next t failure answered =>
      rw [answered] at kept
      rw [ih, kept]
    next t reply answered =>
      rw [answered] at kept
      rw [ih]
      exact kept

@[simp] theorem doBuiltin_app (which : Builtin) :
    (s.doBuiltin host command which).1.app = s.app := by
  cases which with
  | completion =>
    dsimp only [doBuiltin]
    split <;> rfl
  | _ => rfl

@[simp] theorem doWork_app (work : Work) : (s.doWork host command work).1.app = s.app := by
  cases work with
  | builtin which => exact doBuiltin_app host command s which
  | handler handler => exact follow_app host command s handler

@[simp] theorem perform_app (task : Task) : (s.perform host command task).1.app = s.app := by
  rw [← performVia_id]
  unfold performVia
  cases task.work host with
  | error failure => rfl
  | ok work => exact doWork_app host command s work

@[simp] theorem concluded_fst (outcome : Session × Except Failure ExitValue) :
    (concluded outcome).1 = outcome.1 := by
  obtain ⟨t, failure | value⟩ := outcome <;> rfl

@[simp] theorem execute_app : (s.execute host command).1.app = s.app := by
  unfold execute
  split
  · rfl
  · simp

@[simp] theorem report_app (failure : Failure) : (s.report failure).app = s.app := by
  unfold report
  split
  · rfl
  · rfl
  · dsimp only
    split <;> rfl

-- Setting up changes the colour and the quiet mark of the application, and the world.
theorem setUp_eq :
    s.setUp host =
      (⟨{ s.app with
          colour := host.messagesInColour && !s.app.flags.isTrue "no-color"
          quiet := levelName s.app.flags = "none" },
        (s.world.setUpLog (levelName s.app.flags) (some (s.app.flags.value "log-file"))).1,
        s.replies⟩,
        (s.world.setUpLog (levelName s.app.flags) (some (s.app.flags.value "log-file"))).2) := by
  unfold setUp
  dsimp only

@[simp] theorem setUp_app :
    (s.setUp host).1.app =
      { s.app with
        colour := host.messagesInColour && !s.app.flags.isTrue "no-color"
        quiet := levelName s.app.flags = "none" } := by
  rw [setUp_eq]

@[simp] theorem setUp_snd :
    (s.setUp host).2 =
      (s.world.setUpLog (levelName s.app.flags) (some (s.app.flags.value "log-file"))).2 := by
  rw [setUp_eq]

theorem app_of_setUp {host : Surroundings} {s ready : Session} {failure? : Option Failure}
    (prepared : s.setUp host = (ready, failure?)) :
    ready.app =
      { s.app with
        colour := host.messagesInColour && !s.app.flags.isTrue "no-color"
        quiet := levelName s.app.flags = "none" } := by
  have app := setUp_app host s
  rw [prepared] at app
  exact app

section

variable {host : Surroundings} {command : String} {s ready : Session} {flags : Registry}
  {failure? : Option Failure} (prepared : (s.entered command flags).setUp host = (ready, failure?))
include prepared

theorem flags_of_setUp : ready.app.flags = flags := by
  rw [app_of_setUp prepared, entered_app]

theorem commands_of_setUp : ready.app.commands = s.app.commands := by
  rw [app_of_setUp prepared, entered_app]

end

/-! ## 3. The log -/

/-- The session without the parts of the log that have no names but dots. -/
def undotted : Session := { s with world.log.dotted := [] }

@[simp] theorem undotted_app : s.undotted.app = s.app := rfl

variable {host command s}

@[simp] theorem record_undotted {part : String} (named : Log.leadingDots part = 0) (level : Level)
    (message : String) :
    s.undotted.record host part level message = (s.record host part level message).undotted := by
  unfold record inWorld World.record undotted
  simp only [Log.setupFor_of_leadingDots named, Log.withPart_of_leadingDots named]
  split <;> rfl

variable (host command s)

theorem runProgram_undotted (words : List String) (capture : Bool) :
    s.undotted.runProgram host command words capture =
      (s.runProgram host command words capture).map undotted id := by
  unfold runProgram
  simp only [record_undotted, Log.leadingDots_commandPart]
  repeat' split
  all_goals rfl

theorem answer_undotted (request : Request) :
    s.undotted.answer host command request =
      (s.answer host command request).map undotted id := by
  cases request with
  | runProgram words capture => exact runProgram_undotted host command s words capture
  | log level message =>
    simp [answer]
  | out | success | warning =>
    by_cases quiet : s.app.quiet = true <;> simp only [answer, undotted_app, quiet] <;> rfl
  | requireProgram name =>
    dsimp only [answer]
    cases host.find? name <;> rfl
  | _ => rfl

theorem follow_undotted (handler : Handler) :
    follow host command handler s.undotted =
      (follow host command handler s).map undotted id := by
  induction handler generalizing s with
  | done value => rfl
  | fail failure => rfl
  | attempt request next ih =>
    unfold follow
    rw [answer_undotted]
    obtain ⟨t, reply | failure⟩ := s.answer host command request
    · exact ih _ t
    · exact ih _ { t with replies := t.replies ++ [_] }

theorem doBuiltin_undotted (which : Builtin) :
    s.undotted.doBuiltin host command which =
      (s.doBuiltin host command which).map undotted id := by
  cases which with
  | completion =>
    by_cases unasked : s.app.flags.value "shell" = ""
    all_goals
      simp only [doBuiltin, undotted_app, unasked, record_undotted, Log.leadingDots_commandPart,
        if_true, if_false]
      split <;> rfl
  | _ => rfl

theorem doWork_undotted (work : Work) :
    s.undotted.doWork host command work = (s.doWork host command work).map undotted id := by
  cases work with
  | builtin which => exact doBuiltin_undotted host command s which
  | handler handler => exact follow_undotted host command s handler

/-! ## 4. Command lines -/

variable {host s} {word : String}

theorem dispatch_of_mem_helpWords (help : word ∈ helpWords) (tokens : List String) :
    s.dispatch host (word :: tokens) = (s.begun.write s.app.globalHelp, .ok ExitCode.success) := by
  unfold dispatch
  dsimp only
  rw [if_pos (List.contains_iff_mem.mpr help)]
  rfl

theorem dispatch_of_mem_versionWords (version : word ∈ versionWords) (tokens : List String) :
    s.dispatch host (word :: tokens) = (s.begun.write s.app.versionText, .ok ExitCode.success) := by
  have other : ∀ word ∈ versionWords, helpWords.contains word = false := by decide
  unfold dispatch
  dsimp only
  rw [if_neg (Bool.eq_false_iff.mp (other word version)),
    if_pos (List.contains_iff_mem.mpr version)]
  rfl

section

variable (help : word ∉ helpWords) (version : word ∉ versionWords)
include help version

theorem dispatch_of_unknown (unknown : s.app.commands.has word = false) (tokens : List String) :
    s.dispatch host (word :: tokens) = (s.begun, .error (.usage (.unknownCommand word))) := by
  unfold dispatch
  dsimp only
  rw [if_neg (by simpa using help), if_neg (by simpa using version),
    if_neg (Bool.eq_false_iff.mp unknown)]
  rfl

variable {tokens : List String} {flags : Registry} (known : s.app.commands.has word = true)
include known

theorem dispatch_of_known (tokens : List String) :
    s.dispatch host (word :: tokens) = s.begun.dispatchCommand host word tokens := by
  unfold dispatch
  dsimp only
  rw [if_neg (by simpa using help), if_neg (by simpa using version), if_pos known]
  rfl

theorem dispatch_of_misread {failure : Failure}
    (read : s.app.flags.parse s.world.files word tokens = (flags, some failure)) :
    s.dispatch host (word :: tokens) = (s.entered word flags, .error failure) := by
  have same : s.begun.app.flags.parse s.begun.world.files word tokens = (flags, some failure) :=
    read
  rw [dispatch_of_known help version known, dispatchCommand, same]
  rfl

-- Once the words of a command have been read, the log decides what is next.
theorem dispatch_of_read
    (read : s.app.flags.parse s.world.files word tokens = (flags, none)) :
    s.dispatch host (word :: tokens) =
      match (s.entered word flags).setUp host with
      | (t, some failure) => (t, .error failure)
      | (t, none) =>
        if t.app.flags.isTrue "help" then (t.write (t.app.commandHelp word), .ok ExitCode.success)
        else t.execute host word := by
  have same : s.begun.app.flags.parse s.begun.world.files word tokens = (flags, none) := read
  rw [dispatch_of_known help version known, dispatchCommand, same]
  rfl

end

end Session

end Toolsmith
