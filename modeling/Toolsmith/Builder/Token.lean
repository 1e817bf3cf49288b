import Toolsmith.Builder.Options
import Toolsmith.Decimal.Integer
import Toolsmith.Text.Quoted
/-!
# The tokens of the builder's command line

A token is an argument, an option or neither.  An option may carry its value behind an equals
sign; a long one may be cut short as long as only one option begins that way, and letters of short
options may be written together.  What looks like a negative number or holds a space is an
argument unless it spells an option.  Behind the first token that is two dashes all is argument.
-/

namespace Toolsmith.Builder

inductive Fault
  /-- More than one option begins as the token does. -/
  | ambiguous (token : String) (candidates : List String)
  | noValue (opt : Opt)
  /-- A value for an option that takes none. -/
  | uselessValue (opt : Opt) (value : String)
  | unknownJob (token : String)
  | leftOver (tokens : List String)
  deriving DecidableEq, Repr

def aboutArgument (argument complaint : String) : String :=
  "argument " ++ argument ++ ": " ++ complaint

def Fault.message : Fault → String
  | .ambiguous token candidates =>
    "ambiguous option: " ++ token ++ " could match " ++ Text.join ", " candidates
  | .noValue opt => aboutArgument opt.text "expected one argument"
  | .uselessValue opt value =>
    aboutArgument opt.text ("ignored explicit argument " ++ Text.Quoted.literal value)
  | .unknownJob token =>
    let names := Job.all.map fun job => Text.Quoted.literal job.name
    aboutArgument "COMMAND"
      ("invalid choice: " ++ Text.Quoted.literal token ++ " (choose from "
        ++ Text.join ", " names ++ ")")
  | .leftOver tokens => "unrecognized arguments: " ++ Text.join " " tokens

/-- What a token is.  An option may have a value written into its token: behind an equals sign, or
right behind the letter of the option. -/
inductive Role
  | argument
  | divider
  | option (opt : Opt) (isLong : Bool) (attached : Option String)
  | unknown
  deriving DecidableEq, Repr

structure Token where
  text : String
  role : Role
  deriving DecidableEq, Repr

namespace Token

def isLong (spelling : String) : Bool := Text.startsWith spelling "--"

/-- Whether characters are at least one decimal digit, in any script, and no more. -/
def isNumber (cs : List Char) : Bool :=
  !cs.isEmpty && cs.all fun c => (Decimal.digitOfAnyScript? c).isSome

/-- Whether characters are digits, or a point with digits behind it and perhaps before it. -/
def isDecimal (cs : List Char) : Bool :=
  let front := cs.takeWhile fun c => (Decimal.digitOfAnyScript? c).isSome
  match cs.drop front.length with
  | [] => !front.isEmpty
  | '.' :: back => isNumber back
  | _ => false

/-- Whether a token looks like a negative number; a line feed at its end does not count. -/
def isNegativeNumber (s : String) : Bool :=
  match s.toList with
  | '-' :: cs => isDecimal (if cs.getLast? = some '\n' then cs.dropLast else cs)
  | _ => false

def beginning (scope : Scope) (start : String) (attached : Option String) :
    List (String × Role) :=
  (scope.spelled.filter fun entry => Text.startsWith entry.1 start).map fun entry =>
    (entry.1, .option entry.2 (isLong entry.1) attached)

/-- The long options that a token may be short for. -/
def completions (scope : Scope) (s : String) : List (String × Role) :=
  match Text.cut? '=' s with
  | some (start, value) => beginning scope start (some value)
  | none => beginning scope s none

/-- The short option that a token begins with, what follows being attached. -/
def letters (scope : Scope) (s : String) : List (String × Role) :=
  let start := String.ofList (s.toList.take 2)
  match scope.option? start with
  | some opt => [(start, .option opt false (some (String.ofList (s.toList.drop 2))))]
  | none => []

/-- The options that a token which spells none may stand for. -/
def candidates (scope : Scope) (s : String) : List (String × Role) :=
  if isLong s then completions scope s else letters scope s

/-- The option that a token spells, alone or before an equals sign. -/
def spelled? (scope : Scope) (s : String) : Option Role :=
  match scope.option? s with
  | some opt => some (.option opt (isLong s) none)
  | none =>
    match Text.cut? '=' s with
    | none => none
    | some (spelling, value) =>
      (scope.option? spelling).map fun opt => .option opt (isLong spelling) (some value)

/-- The role of a token before any divider. -/
def roleOf (scope : Scope) (s : String) : Except Fault Role :=
  if !Text.startsWith s "-" || s = "-" then .ok .argument
  else
    match spelled? scope s with
    | some role => .ok role
    | none =>
      match candidates scope s with
      | [(_, role)] => .ok role
      | [] =>
        if isNegativeNumber s || s.toList.contains ' ' then .ok .argument else .ok .unknown
      | several => .error (.ambiguous s (several.map Prod.fst))

def classify (scope : Scope) : List String → Except Fault (List Token)
  | [] => .ok []
  | s :: rest =>
    if s = "--" then .ok (⟨s, .divider⟩ :: rest.map fun s => ⟨s, .argument⟩)
    else do
      let role ← roleOf scope s
      let tokens ← classify scope rest
      return ⟨s, role⟩ :: tokens

end Token

end Toolsmith.Builder
