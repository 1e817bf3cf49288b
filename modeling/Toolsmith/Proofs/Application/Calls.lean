import Mathlib.Control.Basic
import Toolsmith.Application.Run
import Toolsmith.Proofs.Flag.Reading
/-!
# Calls of handlers

A run is told here once more with the work for a command as an effect of an arbitrary monad.  With
the work done at once it is the run itself (`runVia_id`).  In every monad it has the effect at most
once and as its last one (`dispatchVia_eq`), since up to it the run depends on nothing else
(`approach`).  What has happened by then is said in one place (`approach_eq_error_iff`).
-/

namespace Toolsmith

/-- What there is to do for a command: a built-in task, or a handler that has been found. -/
inductive Work
  | builtin (which : Builtin)
  | handler (handler : Handler)

def Task.work (host : Surroundings) : Task → Except Failure Work
  | .builtin which => .ok (.builtin which)
  | .handler h => .ok (.handler h)
  | .deferred d => (d.resolve host.modules).map fun found => .handler found.handler

/-- The call of a handler: the command that it is for, what is called, and the application at that
moment. -/
structure Call where
  command : String
  work : Work
  app : Application

namespace Session

def doWork (host : Surroundings) (command : String) (s : Session) :
    Work → Session × Except Failure ExitValue
  | .builtin which => s.doBuiltin host command which
  | .handler handler => follow host command handler s

/-- The session at the beginning of a run, which is about no command yet. -/
def begun (s : Session) : Session := { s with app := { s.app with current := none } }

/-- The session in which the command line of a command has been read. -/
def entered (s : Session) (command : String) (flags : Registry) : Session :=
  { s with app := { s.app with current := some command, flags } }

@[simp] theorem begun_world (s : Session) : s.begun.world = s.world := rfl

@[simp] theorem entered_app (s : Session) (command : String) (flags : Registry) :
    (s.entered command flags).app = { s.app with current := some command, flags } := rfl

@[simp] theorem entered_world (s : Session) (command : String) (flags : Registry) :
    (s.entered command flags).world = s.world := rfl

/-! ## 1. Runs in a monad -/

section Via

variable {m : Type → Type} [Monad m]
  (serve : String → Work → Session → m (Session × Except Failure ExitValue))

def performVia (host : Surroundings) (command : String) (task : Task) (s : Session) :
    m (Session × Except Failure ExitValue) :=
  match task.work host with
  | .error failure => pure (s, .error failure)
  | .ok work => serve command work s

def executeVia (host : Surroundings) (command : String) (s : Session) :
    m (Session × Except Failure Int) :=
  match s.app.commands.handler? command with
  | none =>
    let handler := ((s.app.commands.find? command).map Command.handlerName).getD command
    pure (s, .error (.internal (.noHandler handler command)))
  | some task =>
    let s := s.record host "" .debug ("Executing command: " ++ command)
    concluded <$> performVia serve host command task.handler s

def dispatchCommandVia (host : Surroundings) (command : String) (tokens : List String)
    (s : Session) : m (Session × Except Failure Int) :=
  match s.app.flags.parse s.world.files command tokens with
  | (flags, some failure) => pure (s.entered command flags, .error failure)
  | (flags, none) =>
    match (s.entered command flags).setUp host with
    | (s, some failure) => pure (s, .error failure)
    | (s, none) =>
      if s.app.flags.isTrue "help" then
        pure (s.write (s.app.commandHelp command), .ok ExitCode.success)
      else executeVia serve host command s

def dispatchVia (host : Surroundings) (words : List String) (s : Session) :
    m (Session × Except Failure Int) :=
  match words with
  | [] => pure (s.begun.write s.app.globalHelp, .ok ExitCode.success)
  | word :: tokens =>
    if helpWords.contains word then
      pure (s.begun.write s.app.globalHelp, .ok ExitCode.success)
    else if versionWords.contains word then
      pure (s.begun.write s.app.versionText, .ok ExitCode.success)
    else if s.app.commands.has word then dispatchCommandVia serve host word tokens s
    else pure (s.begun, .error (.usage (.unknownCommand word)))

def finished : Session × Except Failure Int → Session × Int
  | (s, .ok code) => (s, code)
  | (s, .error failure) => (s.report failure, failure.exitCode)

def runVia (host : Surroundings) (words : List String) (s : Session) : m (Session × Int) :=
  finished <$> dispatchVia serve host words s

end Via

-- The work done at once, without an effect.
abbrev atOnce (host : Surroundings) (command : String) (work : Work) (s : Session) :
    Id (Session × Except Failure ExitValue) := s.doWork host command work

section

variable (host : Surroundings) (command : String) (s : Session)

@[simp] theorem performVia_id (task : Task) :
    performVia (atOnce host) host command task s = s.perform host command task := by
  unfold perform performVia Task.work
  cases task with
  | builtin which => rfl
  | handler handler => rfl
  | deferred deferred =>
    dsimp only
    cases deferred.resolve host.modules <;> rfl

@[simp] theorem executeVia_id :
    executeVia (atOnce host) host command s = s.execute host command := by
  unfold executeVia execute
  cases s.app.commands.handler? command with
  | none => rfl
  | some task => simp only [performVia_id]; rfl

theorem dispatchCommandVia_id (tokens : List String) :
    dispatchCommandVia (atOnce host) host command tokens s =
      s.dispatchCommand host command tokens := by
  unfold dispatchCommandVia dispatchCommand
  obtain ⟨flags, failure⟩ := s.app.flags.parse s.world.files command tokens
  cases failure with
  | some failure => rfl
  | none => simp only [executeVia_id]; rfl

@[simp] theorem dispatchVia_id (words : List String) :
    dispatchVia (atOnce host) host words s = s.dispatch host words := by
  unfold dispatchVia dispatch
  simp only [dispatchCommandVia_id]
  rfl

/-- With the work done at once, this is the run. -/
@[simp] theorem runVia_id (words : List String) :
    runVia (atOnce host) host words s = s.run host words := by
  unfold runVia run
  rw [dispatchVia_id]
  rfl

end

/-! ## 2. The way to the first call -/

/-- A call to come: the command, the work for it, and the session at that moment. -/
abbrev First := String × Work × Session

-- In place of the work the run is broken off.
def stopAt (command : String) (work : Work) (s : Session) :
    Except First (Session × Except Failure ExitValue) := .error (command, work, s)

/-- How a run ends if it calls no handler, or else its first call. -/
def approach (host : Surroundings) (words : List String) (s : Session) :
    Except First (Session × Except Failure Int) :=
  dispatchVia stopAt host words s

section Via

variable {m : Type → Type} [Monad m] [LawfulMonad m]
  (serve : String → Work → Session → m (Session × Except Failure ExitValue))

def resumed :
    Except First (Session × Except Failure Int) → m (Session × Except Failure Int)
  | .ok outcome => pure outcome
  | .error (command, work, s) => concluded <$> serve command work s

theorem executeVia_eq (host : Surroundings) (command : String) (s : Session) :
    executeVia serve host command s =
      resumed serve (executeVia stopAt host command s) := by
  unfold executeVia performVia
  cases s.app.commands.handler? command with
  | none => rfl
  | some task =>
    dsimp only
    cases task.handler.work host with
    | error failure => rw [map_pure]; rfl
    | ok work => rfl

theorem dispatchCommandVia_eq (host : Surroundings) (command : String) (tokens : List String)
    (s : Session) :
    dispatchCommandVia serve host command tokens s =
      resumed serve (dispatchCommandVia stopAt host command tokens s) := by
  unfold dispatchCommandVia
  split
  · rfl
  · split
    · rfl
    · split
      · rfl
      · exact executeVia_eq serve host command _

/-- A run comes to its end without a call, or it ends with its first call. -/
theorem dispatchVia_eq (host : Surroundings) (words : List String) (s : Session) :
    dispatchVia serve host words s = resumed serve (s.approach host words) := by
  unfold approach dispatchVia
  cases words with
  | nil => rfl
  | cons word tokens =>
    dsimp only
    split
    · rfl
    · split
      · rfl
      · split
        · exact dispatchCommandVia_eq serve host word tokens s
        · rfl

end Via

/-- A run ends as the work of its first call does, if it has one. -/
theorem dispatch_eq (host : Surroundings) (words : List String) (s : Session) :
    s.dispatch host words =
      match s.approach host words with
      | .ok outcome => outcome
      | .error (command, work, t) => concluded (t.doWork host command work) := by
  rw [← dispatchVia_id, dispatchVia_eq]
  cases s.approach host words <;> rfl

/-! ## 3. The calls of a run -/

/-- Does some work and adds it to the list of calls. -/
def noted (host : Surroundings) (command : String) (work : Work) (s : Session) :
    StateM (List Call) (Session × Except Failure ExitValue) := do
  modify fun calls => calls ++ [⟨command, work, s.app⟩]
  return s.doWork host command work

def calls (host : Surroundings) (words : List String) (s : Session) : List Call :=
  ((runVia (noted host) host words s).run []).2

/-- The run in which calls are noted is the run. -/
theorem run_noted (host : Surroundings) (words : List String) (s : Session) :
    ((runVia (noted host) host words s).run []).1 = s.run host words := by
  rw [← runVia_id]
  unfold runVia
  rw [dispatchVia_eq, dispatchVia_eq]
  cases s.approach host words <;> rfl

theorem calls_eq (host : Surroundings) (words : List String) (s : Session) :
    s.calls host words =
      match s.approach host words with
      | .ok _ => []
      | .error (command, work, t) => [⟨command, work, t.app⟩] := by
  unfold calls runVia
  rw [dispatchVia_eq]
  cases s.approach host words <;> rfl

section Approach

variable {host : Surroundings} {command called : String} {s t : Session} {work : Work}

theorem executeVia_eq_error_iff :
    executeVia stopAt host command s = .error (called, work, t) ↔
      called = command ∧ ∃ task, s.app.commands.handler? command = some task ∧
        task.handler.work host = .ok work ∧
        t = s.record host "" .debug ("Executing command: " ++ command) := by
  unfold executeVia performVia
  cases s.app.commands.handler? command with
  | none => simp [pure, Except.pure]
  | some task =>
    dsimp only
    cases found : task.handler.work host with
    | error failure => simp [pure, Except.pure, found]
    | ok work => simp [stopAt, found, eq_comm]

theorem dispatchCommandVia_eq_error_iff {tokens : List String} :
    dispatchCommandVia stopAt host command tokens s = .error (called, work, t) ↔
      ∃ flags ready, s.app.flags.parse s.world.files command tokens = (flags, none) ∧
        (s.entered command flags).setUp host = (ready, none) ∧
        ready.app.flags.isTrue "help" = false ∧ called = command ∧
        ∃ task, ready.app.commands.handler? command = some task ∧
          task.handler.work host = .ok work ∧
          t = ready.record host "" .debug ("Executing command: " ++ command) := by
  unfold dispatchCommandVia
  obtain ⟨flags, failure⟩ := s.app.flags.parse s.world.files command tokens
  cases failure with
  | some failure => simp [pure, Except.pure]
  | none =>
    simp only [Prod.mk.injEq, and_true, exists_and_left, exists_eq_left']
    obtain ⟨ready, failure⟩ := (s.entered command flags).setUp host
    cases failure with
    | some failure => simp [pure, Except.pure]
    | none =>
      simp only [Prod.mk.injEq, and_true, exists_eq_left']
      cases ready.app.flags.isTrue "help" with
      | true => simp [pure, Except.pure]
      | false => simp [executeVia_eq_error_iff]

/-- A run comes to a call if and only if its first word is no word for help or version but names a
command, all the other words are read, the log is set up, help is not asked for, and there is a
handler. -/
theorem approach_eq_error_iff {words : List String} :
    s.approach host words = .error (command, work, t) ↔
      ∃ tokens flags ready task, words = command :: tokens ∧
        helpWords.contains command = false ∧ versionWords.contains command = false ∧
        s.app.commands.has command = true ∧
        s.app.flags.parse s.world.files command tokens = (flags, none) ∧
        (s.entered command flags).setUp host = (ready, none) ∧
        ready.app.flags.isTrue "help" = false ∧
        ready.app.commands.handler? command = some task ∧ task.handler.work host = .ok work ∧
        t = ready.record host "" .debug ("Executing command: " ++ command) := by
  unfold approach dispatchVia
  cases words with
  | nil => simp [pure, Except.pure]
  | cons word tokens =>
    simp only [List.cons.injEq]
    constructor
    · intro h
      split at h
      next => cases h
      next help =>
        split at h
        next => cases h
        next version =>
          split at h
          next known =>
            obtain ⟨flags, ready, read, prepared, unasked, rfl, task, found, amounts, rfl⟩ :=
              dispatchCommandVia_eq_error_iff.mp h
            exact ⟨tokens, flags, ready, task, ⟨rfl, rfl⟩, Bool.eq_false_iff.mpr help,
              Bool.eq_false_iff.mpr version, known, read, prepared, unasked, found, amounts, rfl⟩
          next => cases h
    · rintro ⟨_, flags, ready, task, ⟨rfl, rfl⟩, help, version, known, read, prepared, unasked,
        found, amounts, rfl⟩
      rw [help, version, known]
      exact dispatchCommandVia_eq_error_iff.mpr
        ⟨flags, ready, read, prepared, unasked, rfl, task, found, amounts, rfl⟩

end Approach

end Session

end Toolsmith
