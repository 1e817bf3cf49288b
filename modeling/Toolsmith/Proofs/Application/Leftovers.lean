import Toolsmith.Proofs.Application.Session
/-!
# What a run leaves behind

A run leaves a good deal behind: the values and positional arguments that it has read, perhaps
only up to a failure, the command that it was about, the quiet mark, the colour, and the log as it
was last set up.  The next run overwrites each of these before it looks at it, so what it shows is
the same without them (`shown_begun_outward`).
-/

namespace Toolsmith

/-! ## 1. What outlasts a run -/

-- The registry before any command line has been read.
def Registry.unread (registry : Registry) : Registry :=
  { registry with values := .empty, positionals := [] }

-- What no run changes in an application.
def Application.lasting (app : Application) : Application :=
  { app with flags := app.flags.unread, current := none, quiet := false, colour := false }

theorem Application.commands_of_lasting_eq {app app' : Application}
    (same : app.lasting = app'.lasting) : app.commands = app'.commands :=
  (congrArg Application.commands same :)

theorem Application.definitions_of_lasting_eq {app app' : Application}
    (same : app.lasting = app'.lasting) : app.flags.definitions = app'.flags.definitions :=
  (congrArg (fun app : Application => app.flags.definitions) same :)

-- What matters of setting up the log for what comes after it: after a failure no log is written.
def World.readied : World × Option Failure → World × Option Failure
  | (world, some failure) => ({ world with log := {} }, some failure)
  | (world, none) => ({ world with log.dotted := [] }, none)

-- Setting up overwrites what there was of a log, the dotted parts apart.
theorem World.readied_setUpLog (world : World) (level : String) (file : Option String) :
    readied (setUpLog { world with log := {} } level file) =
      readied (world.setUpLog level file) := by
  unfold setUpLog
  cases Log.threshold level with
  | error fault => rfl
  | ok threshold =>
    dsimp only
    split
    · rfl
    · split
      · rfl
      · rfl
      · split <;> rfl

namespace Session

variable (host : Surroundings) (command : String) (s : Session)

/-- What the report of a failure sees of a session: what outlasts the run, the current command, and
the world without the log. -/
def outward : Session :=
  { s with app := { s.app.lasting with current := s.app.current }, world.log := {} }

theorem report_outward (failure : Failure) :
    s.outward.report failure = (s.report failure).outward := by
  unfold report
  split
  · rfl
  · rfl
  · dsimp only
    split <;> rfl

/-! ## 2. What the first call sees -/

-- What matters of the way to the first call for what comes after it.  A run that has come to its
-- end without a call is only reported; a handler sees the whole application and writes to the log.
def gist : Except First (Session × Except Failure Int) →
    Except First (Session × Except Failure Int)
  | .ok (t, result) => .ok (t.outward, result)
  | .error (command, work, t) => .error (command, work, t.undotted)

theorem gist_executeVia_undotted :
    gist (executeVia stopAt host command s.undotted) = gist (executeVia stopAt host command s) := by
  unfold executeVia performVia
  rw [undotted_app]
  cases s.app.commands.handler? command with
  | none => rfl
  | some task =>
    dsimp only
    rw [record_undotted rfl]
    cases task.handler.work host <;> rfl

-- The rest of a run after its log has been set up.
def proceed : Session × Option Failure → Except First (Session × Except Failure Int)
  | (ready, some failure) => pure (ready, .error failure)
  | (ready, none) =>
    if ready.app.flags.isTrue "help" then
      pure (ready.write (ready.app.commandHelp command), .ok ExitCode.success)
    else executeVia stopAt host command ready

-- What matters of a session after its log has been set up, or after that has failed.
def settled : Session × Option Failure → Session × Option Failure
  | (ready, some failure) => (ready.outward, some failure)
  | (ready, none) => (ready.undotted, none)

theorem gist_proceed_settled (outcome : Session × Option Failure) :
    gist (proceed host command (settled outcome)) = gist (proceed host command outcome) := by
  obtain ⟨ready, _ | failure⟩ := outcome
  · dsimp only [settled, proceed]
    rw [undotted_app]
    split
    · rfl
    · exact gist_executeVia_undotted host command ready
  · rfl

theorem settled_congr {a b : World × Option Failure} (same : World.readied a = World.readied b)
    (app : Application) (replies : List Reply) :
    settled (⟨app, a.1, replies⟩, a.2) = settled (⟨app, b.1, replies⟩, b.2) := by
  obtain ⟨u, _ | failure⟩ := a <;> obtain ⟨v, _ | failure'⟩ := b <;>
    have failures := congrArg Prod.snd same
  · have logs : ({ u with log.dotted := [] } : World) = { v with log.dotted := [] } :=
      congrArg Prod.fst same
    exact congrArg (fun world => (Session.mk app world replies, none)) logs
  · cases failures
  · cases failures
  · have worlds : ({ u with log := {} } : World) = { v with log := {} } := congrArg Prod.fst same
    cases failures
    exact congrArg (fun world =>
      (Session.mk { app.lasting with current := app.current } world replies, some failure)) worlds

theorem settled_setUp_entered (flags : Registry) :
    settled ((s.begun.outward.entered command flags).setUp host) =
      settled ((s.entered command flags).setUp host) := by
  rw [setUp_eq, setUp_eq]
  exact settled_congr (s.world.readied_setUpLog (levelName flags) (some (flags.value "log-file")))
    _ _

theorem dispatchCommandVia_stopAt (tokens : List String) :
    dispatchCommandVia stopAt host command tokens s =
      match s.app.flags.parse s.world.files command tokens with
      | (flags, some failure) => .ok (s.entered command flags, .error failure)
      | (flags, none) => proceed host command ((s.entered command flags).setUp host) := by
  unfold dispatchCommandVia
  obtain ⟨flags, _ | failure⟩ := s.app.flags.parse s.world.files command tokens
  · dsimp only
    generalize (s.entered command flags).setUp host = outcome
    obtain ⟨ready, _ | failure⟩ := outcome <;> rfl
  · rfl

theorem gist_dispatchCommandVia (tokens : List String) :
    gist (dispatchCommandVia stopAt host command tokens s.begun.outward) =
      gist (dispatchCommandVia stopAt host command tokens s) := by
  have read : s.begun.outward.app.flags.parse s.begun.outward.world.files command tokens =
      s.app.flags.parse s.world.files command tokens := rfl
  rw [dispatchCommandVia_stopAt, dispatchCommandVia_stopAt, read]
  obtain ⟨flags, _ | failure⟩ := s.app.flags.parse s.world.files command tokens
  · dsimp only
    rw [← gist_proceed_settled, settled_setUp_entered, gist_proceed_settled]
  · rfl

theorem gist_approach (words : List String) :
    gist (s.begun.outward.approach host words) = gist (s.approach host words) := by
  unfold approach dispatchVia
  cases words with
  | nil => rfl
  | cons word tokens =>
    have known : s.begun.outward.app.commands.has word = s.app.commands.has word := rfl
    dsimp only
    rw [known]
    split
    · rfl
    · split
      · rfl
      · split
        · exact gist_dispatchCommandVia host word s tokens
        · rfl

/-! ## 3. What a run shows -/

/-- What a run shows: the exit code, the calls of handlers and the replies that they got, and the
files and texts that there are in the end. -/
structure Shown where
  code : Int
  calls : List Call
  replies : List Reply
  files : Files
  out : String
  err : String

def shown (words : List String) : Shown :=
  let (t, code) := s.run host words
  ⟨code, s.calls host words, t.replies, t.world.files, t.world.out, t.world.err⟩

theorem calls_eq_of_gist (words : List String) :
    s.calls host words =
      match gist (s.approach host words) with
      | .ok _ => []
      | .error (command, work, t) => [⟨command, work, t.app⟩] := by
  rw [calls_eq]
  cases s.approach host words <;> rfl

theorem finished_outward (t : Session) (result : Except Failure Int) :
    (finished (t.outward, result)).map outward id = (finished (t, result)).map outward id := by
  cases result with
  | ok code => rfl
  | error failure =>
    dsimp only [finished, Prod.map]
    rw [report_outward]
    rfl

theorem finished_undotted (t : Session) (result : Except Failure Int) :
    (finished (t.undotted, result)).map outward id = (finished (t, result)).map outward id :=
  (finished_outward t.undotted result).symm.trans (finished_outward t result)

theorem run_eq_of_gist (words : List String) :
    (s.run host words).map outward id =
      match gist (s.approach host words) with
      | .ok outcome => (finished outcome).map outward id
      | .error (command, work, t) =>
        (finished (concluded (t.doWork host command work))).map outward id := by
  have ends : s.run host words = finished (s.dispatch host words) := rfl
  rw [ends, dispatch_eq]
  rcases s.approach host words with ⟨command, work, t⟩ | ⟨t, result⟩
  · dsimp only [gist]
    rw [doWork_undotted]
    obtain ⟨u, failure | value⟩ := t.doWork host command work
    · exact (finished_undotted u (.error failure)).symm
    · exact (finished_undotted u value.code).symm
  · exact (finished_outward t result).symm

/-- What a run shows depends on what outlasts runs, and on nothing that an earlier run has left. -/
theorem shown_begun_outward (words : List String) :
    s.begun.outward.shown host words = s.shown host words := by
  have calls : s.begun.outward.calls host words = s.calls host words := by
    rw [calls_eq_of_gist, gist_approach, ← calls_eq_of_gist]
  have ends : (s.begun.outward.run host words).map outward id =
      (s.run host words).map outward id := by
    rw [run_eq_of_gist, gist_approach, ← run_eq_of_gist]
  have shows (t : Session) : t.shown host words =
      (fun (u, code) => ⟨code, t.calls host words, u.replies, u.world.files, u.world.out,
        u.world.err⟩) ((t.run host words).map outward id) := rfl
  rw [shows, shows, calls, ends]

end Session

end Toolsmith
