import Toolsmith.Failure
import Toolsmith.Calendar
import Toolsmith.Tool
/-!
# The log

Records have a level and a message, and come from the framework or from a part of it.  A log that
has been set up shows the records from its threshold on, each with the moment and the level, on
standard error and in a file if one was asked for.  A log that has not shows bare messages from
warnings on; so do the parts whose names keep them from the setup.
-/

namespace Toolsmith

inductive Level
  | debug
  | info
  | warning
  | error
  | critical
  deriving DecidableEq, Repr

def Level.rank : Level → Nat
  | .debug => 10
  | .info => 20
  | .warning => 30
  | .error => 40
  | .critical => 50

def Level.word : Level → String
  | .debug => "DEBUG"
  | .info => "INFO"
  | .warning => "WARNING"
  | .error => "ERROR"
  | .critical => "CRITICAL"

/-- How a log is set up: the least rank that it shows, and the place of its file if it has one. -/
structure LogSetup where
  threshold : Nat
  file : Option (List String)
  deriving DecidableEq, Repr

/-- A log: its setup if it has been set up, and the parts in use whose names are dots and nothing
else, by the number of dots between the name of the framework and the end of theirs. -/
structure Log where
  setup : Option LogSetup := none
  dotted : List Nat := []
  deriving DecidableEq, Repr

namespace Log

/-! ## 1. Names -/

def rootName : String := Tool.name

def nameOf (part : String) : String := if part = "" then rootName else rootName ++ "." ++ part

def compilerPart : String := "compiler"

def commandPart (command : String) : String := "commands." ++ command

def leadingDots (s : String) : Nat := (s.toList.takeWhile (· = '.')).length

/-- Whether the search for the log that a part hangs below comes to the framework, if it has come
to the name of the framework with so many dots behind it.  The search cuts names at a dot, from the
end on, and passes over a dot right before the cut; so a name may miss the one dot that counts.  A
part in use that is met on the way goes on with a search of its own. -/
def hangs (dotted : List Nat) : Nat → Bool
  | 0 => true
  | 1 => false
  | dots + 2 => if dotted.contains (dots + 2) then hangs dotted (dots + 1) else hangs dotted dots

def setupFor (log : Log) (part : String) : Option LogSetup :=
  if hangs log.dotted (leadingDots part) then log.setup else none

def withPart (log : Log) (part : String) : Log :=
  let dots := leadingDots part
  if part ≠ "" ∧ dots = part.length then { log with dotted := (dots + 1) :: log.dotted } else log

/-! ## 2. Records -/

def thresholds : List (String × Nat) := levelNames.zip [10, 20, 30, 40, 60]

/-- The threshold of a name, in letters of any size. -/
def threshold (name : String) : Except ValidationFault Nat :=
  match thresholds.lookup (Text.lowerLetters name) with
  | some rank => .ok rank
  | none => .error (.unknownLevel name)

def line (clock : Int) (level : Level) (message : String) : String :=
  Calendar.stamp clock ++ " " ++ level.word ++ ": " ++ message ++ "\n"

/-- What a record adds to standard error under a setup, or without one. -/
def shown (setup : Option LogSetup) (clock : Int) (level : Level) (message : String) : String :=
  match setup with
  | none => if Level.warning.rank ≤ level.rank then message ++ "\n" else ""
  | some setup => if setup.threshold ≤ level.rank then line clock level message else ""

def filed (setup : LogSetup) (clock : Int) (level : Level) (message : String) : String :=
  if setup.threshold ≤ level.rank then line clock level message else ""

end Log

end Toolsmith
