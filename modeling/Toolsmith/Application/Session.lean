import Toolsmith.Application.Basic
import Toolsmith.Shell
/-!
# Sessions

A session is an application at work in a world.  Here is how it answers the requests of a
handler, how it does the built-in tasks, and how it follows a handler to its end.
-/

namespace Toolsmith

/-! ## 1. Sessions -/

/-- An application at work: the application, the world, and the replies that handlers got. -/
structure Session where
  app : Application
  world : World
  replies : List Reply

namespace Session

def inWorld (s : Session) (change : World → World) : Session := { s with world := change s.world }

/-- Writes a text to standard output as whole lines. -/
def write (s : Session) (text : String) : Session := s.inWorld (·.sayOut (Console.ended text))

def writeErr (s : Session) (text : String) : Session := s.inWorld (·.sayErr (Console.ended text))

def record (host : Surroundings) (part : String) (level : Level) (message : String)
    (s : Session) : Session :=
  s.inWorld (·.record host.clock part level message)

section

variable (s : Session) (change : World → World) (text : String)

@[simp] theorem inWorld_app : (s.inWorld change).app = s.app := rfl

@[simp] theorem inWorld_world : (s.inWorld change).world = change s.world := rfl

@[simp] theorem write_app : (s.write text).app = s.app := rfl

@[simp] theorem write_world : (s.write text).world = s.world.sayOut (Console.ended text) := rfl

@[simp] theorem writeErr_world :
    (s.writeErr text).world = s.world.sayErr (Console.ended text) := rfl

variable (host : Surroundings) (part : String) (level : Level) (message : String)

@[simp] theorem record_app : (s.record host part level message).app = s.app := rfl

@[simp] theorem record_world :
    (s.record host part level message).world =
      s.world.record host.clock part level message := rfl

end

/-! ## 2. Requests -/

/-- Runs a program for the handler of a command.  It must be found and must end with code zero. -/
def runProgram (host : Surroundings) (command : String) (words : List String) (capture : Bool)
    (s : Session) : Session × Except Failure Reply :=
  match words with
  | [] => (s, .error (.internal .noProgramName))
  | name :: _ =>
    match host.programs.get? name with
    | none => (s, .error (.environment (.missingProgram name)))
    | some program =>
      if program.path.isNone then (s, .error (.environment (.missingProgram name)))
      else
        let running := "Running: " ++ Text.join " " words
        let s := s.record host (Log.commandPart command) .debug running
        match program.refusal with
        | some why => (s, .error (.external (.notStarted name why)))
        | none =>
          if program.code = 0 then
            (s, .ok (.ended 0 (if capture then some program.output else none)))
          else (s, .error (.external (.failed name program.code)))

def checked {α : Type} (s : Session) (reply : α → Reply) (result : Except Failure α) :
    Session × Except Failure Reply :=
  (s, result.map reply)

def answer (host : Surroundings) (command : String) (s : Session) :
    Request → Session × Except Failure Reply
  | .command => (s, .ok (.text command))
  | .positionals => (s, .ok (.texts s.app.flags.positionals))
  | .flagsHelp => (s, .ok (.text (s.app.flags.help command)))
  | .value long default => (s, .ok (.text (s.app.flags.value long default)))
  | .isSet long => (s, .ok (.flag (s.app.flags.isSet long)))
  | .isTrue long => (s, .ok (.flag (s.app.flags.isTrue long)))
  | .positional index default => (s, .ok (.text (s.app.flags.positional index default)))
  | .out text => (if s.app.quiet then s else s.write text, .ok .nothing)
  | .success message =>
    (if s.app.quiet then s else s.inWorld (·.sayErr (Console.success message)), .ok .nothing)
  | .warning message =>
    (if s.app.quiet then s else s.inWorld (·.sayErr (Console.warning message)), .ok .nothing)
  | .log level message =>
    let part := Log.commandPart command
    (s.record host part level message, .ok (.text (Log.nameOf part)))
  | .requireInteger long => s.checked .number (Check.requireInteger long (s.app.flags.value long))
  | .requirePort long => s.checked .number (Check.requirePort long (s.app.flags.value long))
  | .requirePath long =>
    s.checked .text (Check.requirePath s.world.files long (s.app.flags.value long))
  | .requireChoice long choices =>
    s.checked .text (Check.requireChoice long (s.app.flags.value long) choices)
  | .requireValue long => s.checked .text (Check.requireNonempty long (s.app.flags.value long))
  | .requireProgram name =>
    match host.find? name with
    | some path => (s, .ok (.text path))
    | none => (s, .error (.environment (.missingProgram name)))
  | .runProgram words capture => s.runProgram host command words capture

/-- Follows a handler to its end.  The replies are kept in their order. -/
def follow (host : Surroundings) (command : String) :
    Handler → Session → Session × Except Failure ExitValue
  | .done value, s => (s, .ok value)
  | .fail failure, s => (s, .error failure)
  | .attempt request next, s =>
    match s.answer host command request with
    | (s, .error failure) => follow host command (next (.error failure)) s
    | (s, .ok reply) =>
      follow host command (next (.ok reply)) { s with replies := s.replies ++ [reply] }

/-! ## 3. Tasks -/

def doBuiltin (host : Surroundings) (command : String) (s : Session) :
    Builtin → Session × Except Failure ExitValue
  | .help => (s.write (s.app.helpFor (s.app.flags.positional 0)), .ok .nothing)
  | .version => (s.write s.app.versionText, .ok .nothing)
  | .commands => ((s.write "Available commands:").write s.app.commandTable, .ok .nothing)
  | .completion =>
    let asked := s.app.flags.value "shell"
    let shell := if asked = "" then Shell.detect host.«variables» else asked
    match s.app.completions.get? shell with
    | none => (s, .error (.internal (.noScript shell s.app.name)))
    | some script =>
      let emitting := "Emitting " ++ shell ++ " completion"
      let s := s.record host (Log.commandPart command) .debug emitting
      (s.inWorld (·.sayOut script), .ok .nothing)

def perform (host : Surroundings) (command : String) (task : Task) (s : Session) :
    Session × Except Failure ExitValue :=
  match task with
  | .builtin which => s.doBuiltin host command which
  | .handler handler => follow host command handler s
  | .deferred deferred =>
    match deferred.resolve host.modules with
    | .error failure => (s, .error failure)
    | .ok found => follow host command found.handler s

end Session

end Toolsmith
