import Toolsmith.Flag.Registry
import Toolsmith.Check
/-!
# Reading a command line

The tokens of a command line are read from left to right.  Each is by its shape an assignment, a
bare key, a cluster of one-letter keys or a positional argument; only a bare key looks at the
token after it.  The first failure ends the reading and leaves what was read so far.  Afterwards
every required flag must be set, and of each group of flags at most one.
-/

namespace Toolsmith

/-! ## 1. Tokens -/

inductive Token
  /-- `--key=value`. -/
  | assignment (key value : String)
  /-- `--key`, or a dash and one character. -/
  | bare (key : String)
  /-- A dash and several characters, each a key. -/
  | cluster (keys : List Char)
  /-- Anything else, a dash alone among it. -/
  | positional
  deriving DecidableEq, Repr

def Token.ofText (s : String) : Token :=
  match s.toList with
  | '-' :: '-' :: body =>
    match Text.cutChars '=' body with
    | some (key, value) => .assignment (String.ofList key) (String.ofList value)
    | none => .bare (String.ofList body)
  | ['-'] => .positional
  | ['-', key] => .bare (String.ofList [key])
  | '-' :: keys => .cluster keys
  | _ => .positional

def isDashed (s : String) : Bool :=
  match s.toList with
  | '-' :: _ => true
  | _ => false

/-! ## 2. Keys and values -/

/-- The flag that a key denotes for a command: the first that the command may use and that
answers to the key. -/
def resolve (definitions : List Definition) (command key : String) :
    Except UsageFault Definition :=
  match definitions.find? fun d => d.flag.visibleTo command && d.flag.answersTo key with
  | some d => .ok d
  | none =>
    match definitions.find? fun d => d.flag.answersTo key with
    | some d => .error (.foreignFlag d.flag.long command)
    | none => .error (.unknownFlag key)

/-- A value in the form in which a flag of a type keeps it, if it is of that type. -/
def accept (files : Files) (long : String) (type : ValueType) (value : String) :
    Except ValidationFault String :=
  match type with
  | .text | .switch => .ok value
  | .integer => if Check.isInteger value then .ok value else .error (.flagNotInteger long value)
  | .boolean =>
    if Check.isBoolean value then .ok (Check.normalizeBoolean value)
    else .error (.flagNotBoolean long value)
  | .path => if files.has value then .ok value else .error (.flagNotPath long value)
  | .choice choices =>
    if Check.isChoice value choices then .ok value
    else .error (.flagNotChoice long choices value)

/-! ## 3. The pass over the tokens -/

/-- What has been read: the values under long names, and the positional arguments. -/
structure Reading where
  values : Table String
  positionals : List String
  deriving DecidableEq, Repr

abbrev Outcome := Reading × Option Failure

namespace Reading

def store (files : Files) (d : Definition) (value : String) (reading : Reading) : Outcome :=
  match accept files d.flag.long d.type value with
  | .ok v => ({ reading with values := reading.values.put d.flag.long v }, none)
  | .error fault => (reading, some (.validation fault))

def assign (files : Files) (definitions : List Definition) (command key value : String)
    (reading : Reading) : Outcome :=
  match resolve definitions command key with
  | .ok d => reading.store files d value
  | .error fault => (reading, some (.usage fault))

def followedBy (outcome : Outcome) (next : Reading → Outcome) : Outcome :=
  match outcome with
  | (reading, none) => next reading
  | (reading, some failure) => (reading, some failure)

def assignAll (files : Files) (definitions : List Definition) (command : String) :
    List Char → Reading → Outcome
  | [], reading => (reading, none)
  | key :: keys, reading =>
    followedBy (reading.assign files definitions command (String.ofList [key]) "true")
      (assignAll files definitions command keys)

def scan (files : Files) (definitions : List Definition) (command : String) :
    List String → Reading → Outcome
  | [], reading => (reading, none)
  | token :: tokens, reading =>
    match Token.ofText token with
    | .assignment key value =>
      followedBy (reading.assign files definitions command key value)
        (scan files definitions command tokens)
    | .cluster keys =>
      followedBy (assignAll files definitions command keys reading)
        (scan files definitions command tokens)
    | .positional =>
      scan files definitions command tokens
        { reading with positionals := reading.positionals ++ [token] }
    | .bare key =>
      match resolve definitions command key with
      | .error fault => (reading, some (.usage fault))
      | .ok d =>
        match tokens with
        | [] => reading.store files d "true"
        | value :: rest =>
          if d.type.takesValue && !isDashed value then
            followedBy (reading.store files d value) (scan files definitions command rest)
          else
            followedBy (reading.store files d "true")
              (scan files definitions command (value :: rest))

end Reading

/-! ## 4. Whole command lines -/

namespace Registry

/-- The values before a command line is read: the defaults of all flags, those of the command's
own flags last, so that they win over flags of the same name elsewhere. -/
def defaults (registry : Registry) (command : String) : Table String :=
  let hidden := registry.definitions.filter fun d => !d.flag.visibleTo command
  (hidden ++ registry.visible command).foldl (fun values d => seed values d.flag) .empty

def missing? (registry : Registry) (command : String) : Option UsageFault :=
  (registry.visible command).findSome? fun d =>
    if d.flag.required && !registry.isSet d.flag.long then some (.missingFlag d.flag.long) else none

def conflict? (registry : Registry) : Option UsageFault :=
  registry.groups.values.findSome? fun longs =>
    let set := longs.filter fun long => registry.isSet long
    if set.length > 1 then some (.conflict set) else none

/-- Reads the command line of a command.  The registry holds afterwards what was read, also up to
a failure. -/
def parse (registry : Registry) (files : Files) (command : String) (tokens : List String) :
    Registry × Option Failure :=
  let start : Reading := ⟨registry.defaults command, []⟩
  let (reading, failure?) := Reading.scan files registry.definitions command tokens start
  let registry := { registry with values := reading.values, positionals := reading.positionals }
  match failure? with
  | some failure => (registry, some failure)
  | none =>
    match registry.missing? command with
    | some fault => (registry, some (.usage fault))
    | none => (registry, registry.conflict?.map .usage)

end Registry

end Toolsmith
