import Toolsmith.Log
import Toolsmith.Check
/-!
# Handlers

A handler is what a command does.  It is a tree of requests: each request gets a reply or fails,
and that decides how the handler goes on, until it is done or fails itself.  So a handler sees the
run only through what its requests give.
-/

namespace Toolsmith

inductive Request
  | command
  | positionals
  | flagsHelp
  | value (long default : String)
  | isSet (long : String)
  | isTrue (long : String)
  | positional (index : Int) (default : String)
  /-- Writes a line to standard output, unless the run is quiet. -/
  | out (text : String)
  | success (message : String)
  | warning (message : String)
  | log (level : Level) (message : String)
  | requireInteger (long : String)
  | requirePort (long : String)
  | requirePath (long : String)
  | requireChoice (long : String) (choices : List String)
  | requireValue (long : String)
  | requireProgram (name : String)
  /-- Runs a program with arguments, its output caught or not. -/
  | runProgram (words : List String) (capture : Bool)
  deriving DecidableEq, Repr

inductive Reply
  | nothing
  | text (s : String)
  | flag (b : Bool)
  | texts (items : List String)
  | number (n : Int)
  /-- The exit code of a program and its output, if it was caught. -/
  | ended (code : Int) (output : Option String)
  deriving DecidableEq, Repr

/-- What a handler gives back: nothing, a number, or a text that should denote one. -/
inductive ExitValue
  | nothing
  | number (n : Int)
  | text (s : String)
  deriving DecidableEq, Repr

def ExitValue.code : ExitValue → Except Failure Int
  | .nothing => .ok ExitCode.success
  | .number n => .ok n
  | .text s => Check.ofNumeral (Decimal.readLenient s)

inductive Handler
  | done (value : ExitValue)
  | fail (failure : Failure)
  | attempt (request : Request) (next : Except Failure Reply → Handler)

namespace Handler

/-- A handler that makes a request and fails if the request does. -/
def ask (request : Request) (next : Reply → Handler) : Handler :=
  .attempt request fun
    | .ok reply => next reply
    | .error failure => .fail failure

def inOrder : List Request → Handler → Handler
  | [], last => last
  | request :: requests, last => .ask request fun _ => inOrder requests last

end Handler

end Toolsmith
