import Toolsmith.Handler
import Toolsmith.Command.Deferred
/-!
# Surroundings

What a run sees and cannot change: the variables, whether standard error is a terminal, the
clock, the programs that can be run, and the modules that can be imported.
-/

namespace Toolsmith

/-- A program outside: where it is found, how it ends, what it writes, and what the system says
if it cannot be started. -/
structure Program where
  path : Option String
  code : Int
  output : String
  refusal : Option String
  deriving DecidableEq, Repr

/-- What a run sees of its surroundings and cannot change. -/
structure Surroundings where
  -- In quotes, since the word is a command where all of Mathlib is imported.
  «variables» : Table String
  errIsTerminal : Bool
  clock : Int
  programs : Table Program
  modules : Modules Handler

namespace Surroundings

/-- Whether output on a stream is coloured: it goes to a terminal, and nobody objects. -/
def colours (environment : Table String) (isTerminal : Bool) : Bool :=
  isTerminal && ((environment.get? "NO_COLOR").filter (· ≠ "")).isNone

def messagesInColour (host : Surroundings) : Bool := colours host.«variables» host.errIsTerminal

def find? (host : Surroundings) (name : String) : Option String :=
  (host.programs.get? name).bind Program.path

end Surroundings

end Toolsmith
