import Toolsmith.Application.Session
/-!
# Runs

A run reads the command line once and does at most one task.  `dispatch` says what happens and
what fails; `run` never fails, it tells the user what went wrong and gives the exit code.
-/

namespace Toolsmith.Session

def helpWords : List String := ["--help", "-h"]

def versionWords : List String := ["--version", "-V"]

def levelName (flags : Registry) : String :=
  if flags.isTrue "verbose" then "debug" else if flags.isTrue "quiet" then "none" else "info"

/-- Sets up colour, quiet and the log as the flags of the command line say. -/
def setUp (host : Surroundings) (s : Session) : Session × Option Failure :=
  let flags := s.app.flags
  let level := levelName flags
  let s := { s with app := { s.app with
    colour := host.messagesInColour && !flags.isTrue "no-color"
    quiet := level = "none" } }
  let (world, failure?) := s.world.setUpLog level (some (flags.value "log-file"))
  ({ s with world }, failure?)

def concluded : Session × Except Failure ExitValue → Session × Except Failure Int
  | (s, .ok value) => (s, value.code)
  | (s, .error failure) => (s, .error failure)

/-- Does the task of a registered command, whose command line has been read. -/
def execute (host : Surroundings) (command : String) (s : Session) :
    Session × Except Failure Int :=
  match s.app.commands.handler? command with
  | none =>
    let handler := ((s.app.commands.find? command).map Command.handlerName).getD command
    (s, .error (.internal (.noHandler handler command)))
  | some task =>
    let s := s.record host "" .debug ("Executing command: " ++ command)
    concluded (s.perform host command task.handler)

def dispatchCommand (host : Surroundings) (command : String) (tokens : List String)
    (s : Session) : Session × Except Failure Int :=
  let (flags, failure?) := s.app.flags.parse s.world.files command tokens
  let s := { s with app := { s.app with current := some command, flags } }
  match failure? with
  | some failure => (s, .error failure)
  | none =>
    match s.setUp host with
    | (s, some failure) => (s, .error failure)
    | (s, none) =>
      if s.app.flags.isTrue "help" then
        (s.write (s.app.commandHelp command), .ok ExitCode.success)
      else s.execute host command

def dispatch (host : Surroundings) (words : List String) (s : Session) :
    Session × Except Failure Int :=
  let s := { s with app := { s.app with current := none } }
  match words with
  | [] => (s.write s.app.globalHelp, .ok ExitCode.success)
  | word :: tokens =>
    if helpWords.contains word then (s.write s.app.globalHelp, .ok ExitCode.success)
    else if versionWords.contains word then (s.write s.app.versionText, .ok ExitCode.success)
    else if s.app.commands.has word then s.dispatchCommand host word tokens
    else (s, .error (.usage (.unknownCommand word)))

/-- Tells the user about a failure.  After a usage failure the help on the current command
follows. -/
def report (failure : Failure) (s : Session) : Session :=
  match failure with
  | .interrupt => s.inWorld (·.sayErr (Console.plain "\nAborted by user."))
  | .accident fault =>
    let text := Console.error Console.unforeseen (some (fault.label ++ ": " ++ fault.text))
    s.inWorld (·.sayErr text)
  | failure =>
    let s := s.inWorld (·.sayErr (Console.error failure.message failure.hint?))
    if failure.kind? = some .usage then
      (s.writeErr "").writeErr (s.app.helpFor (s.app.current.getD ""))
    else s

def run (host : Surroundings) (words : List String) (s : Session) : Session × Int :=
  match s.dispatch host words with
  | (s, .ok code) => (s, code)
  | (s, .error failure) => (s.report failure, failure.exitCode)

end Toolsmith.Session
