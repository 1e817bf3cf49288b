import Toolsmith.Files.Tree
import Toolsmith.Json.Reader
/-!
# Failures

Everything that can stop a run or a build, as the cause and not as a text.  The causes fall into
kinds, and the kind alone decides the exit code.  The wording of every cause, and the advice that
some of them give, is fixed here and nowhere else.
-/

namespace Toolsmith

/-! ## 1. Kinds and exit codes -/

inductive Kind
  | general
  | usage
  | validation
  | environment
  | internal
  | external
  | schema
  deriving DecidableEq, Repr

namespace ExitCode

def success : Int := 0

def usage : Int := 1

def interrupted : Int := 130

def unforeseen : Int := 4

end ExitCode

def Kind.exitCode : Kind → Int
  | .usage => ExitCode.usage
  | .validation => 2
  | .schema => 2
  | .environment => 3
  | .external => 5
  | .internal => ExitCode.unforeseen
  | .general => ExitCode.unforeseen

/-- A flag key as it is typed: one dash before a single character, two before a longer key. -/
def displayKey (key : String) : String := if key.length = 1 then "-" ++ key else "--" ++ key

/-! ## 2. Causes -/

inductive UsageFault
  | unknownCommand (name : String)
  | unknownFlag (key : String)
  | foreignFlag (long command : String)
  | missingFlag (long : String)
  | conflict (longs : List String)
  deriving DecidableEq, Repr

def UsageFault.message : UsageFault → String
  | .unknownCommand name => s!"Unknown command: {name}"
  | .unknownFlag key => s!"Unknown flag: {displayKey key}"
  | .foreignFlag long command => s!"Flag --{long} is not valid for command '{command}'"
  | .missingFlag long => s!"Required flag --{long} is missing"
  | .conflict longs =>
    "Flags " ++ Text.join " " (longs.map fun long => "--" ++ long) ++ " are mutually exclusive"

inductive ValidationFault
  | flagNotInteger (long value : String)
  | flagNotBoolean (long value : String)
  | flagNotPath (long value : String)
  | flagNotChoice (long : String) (choices : List String) (value : String)
  | notInteger (name value : String)
  | notPath (name value : String)
  | notChoice (name : String) (choices : List String) (value : String)
  | isEmpty (name : String)
  | notPort (name value : String)
  | unknownLevel (level : String)
  | noLogDirectory (directory : String)
  deriving DecidableEq, Repr

def levelNames : List String := ["debug", "info", "warn", "error", "none"]

def ValidationFault.message : ValidationFault → String
  | .flagNotInteger long value => s!"Flag --{long} requires an integer, got '{value}'"
  | .flagNotBoolean long value => s!"Flag --{long} requires a boolean, got '{value}'"
  | .flagNotPath long value => s!"Flag --{long} path does not exist: '{value}'"
  | .flagNotChoice long choices value =>
    s!"Flag --{long} must be one of: " ++ Text.join ", " choices ++ s!", got '{value}'"
  | .notInteger name value => s!"'{name}' must be an integer, got '{value}'"
  | .notPath name value => s!"'{name}' path does not exist: '{value}'"
  | .notChoice name choices value =>
    s!"'{name}' must be one of: " ++ Text.join ", " choices ++ s!", got '{value}'"
  | .isEmpty name => s!"'{name}' cannot be empty"
  | .notPort name value => s!"'{name}' must be a valid port (1-65535), got '{value}'"
  | .unknownLevel level => s!"Invalid log level: {level}"
  | .noLogDirectory directory => s!"Cannot create log directory: {directory}"

def ValidationFault.hint? : ValidationFault → Option String
  | .flagNotBoolean _ _ => some "Use one of: true, false, yes, no, 1, 0, on, off"
  | .unknownLevel _ => some ("Use one of: " ++ Text.join ", " levelNames)
  | _ => none

inductive EnvironmentFault
  | missingProgram (name : String)
  deriving DecidableEq, Repr

def EnvironmentFault.message : EnvironmentFault → String
  | .missingProgram name => s!"Required command '{name}' not found"

def EnvironmentFault.hint? : EnvironmentFault → Option String
  | .missingProgram name => some s!"Install {name} and make sure it is on PATH."

inductive InternalFault
  | noChoices (type : String)
  | unknownType (type : String)
  | longTaken (long olderScope scope : String)
  | shortTaken (short long owner : String)
  | commandTaken (name : String)
  | noHandler (handler command : String)
  | notInModule (handler command : String)
  /-- A module or package is missing; it was looked for in `home?`, which holds no modules. -/
  | notImported (module command missing : String) (home? : Option String)
  | noProgramName
  | noScript (shell application : String)
  deriving DecidableEq, Repr

def InternalFault.message : InternalFault → String
  | .noChoices type => s!"Enum flag type declares no values: {type}"
  | .unknownType type => s!"Unknown flag type: {type}"
  | .longTaken long olderScope scope =>
    s!"Duplicate flag --{long} (scopes '{olderScope}' and '{scope}')"
  | .shortTaken short long owner =>
    s!"Short flag -{short} of --{long} is already used by --{owner}"
  | .commandTaken name => s!"Command '{name}' is already registered"
  | .noHandler handler command => s!"Handler '{handler}' for command '{command}' not found"
  | .notInModule handler command => s!"Handler '{handler}' for command '{command}' not found"
  | .notImported module command missing home? =>
    s!"Cannot import handler module '{module}' for command '{command}': No module named "
      ++ Text.Quoted.literal missing
      ++ match home? with
        | some home => "; " ++ Text.Quoted.literal home ++ " is not a package"
        | none => ""
  | .noProgramName => "run_external() needs at least a program name"
  | .noScript shell application =>
    s!"No {shell} completion script is bundled with {application}"

def InternalFault.hint? : InternalFault → Option String
  | .notInModule handler _ => some s!"Define {handler}(ctx) in the command's main.py."
  | _ => none

inductive ExternalFault
  | notStarted (name why : String)
  | failed (name : String) (code : Int)
  deriving DecidableEq, Repr

def ExternalFault.message : ExternalFault → String
  | .notStarted name why => s!"Command '{name}' could not be started: {why}"
  | .failed name code => s!"Command '{name}' failed with exit code {code}"

inductive SchemaComplaint
  | unreadable (why : String)
  | invalidJson (complaint : String) (line column : Nat)
  | notAnObject
  | noField (name : String)
  | argsNotArray
  | argNotObject (index : Nat)
  | argUnnamed (index : Nat)
  | badCommandName (name : String)
  | commandTaken (name : String)
  | moduleTaken (name : String)
  | badFlagName (name : String)
  | badShortName (long short : String)
  | badType (long : String) (fault : InternalFault)
  /-- A choice with a character that it may not have, given as a literal. -/
  | unsafeChoice (long literal : String)
  | defaultNotInteger (long value : String)
  | defaultNotBoolean (long value : String)
  | defaultNotChoice (long : String) (choices : List String)
  | flagRefused (fault : InternalFault)
  deriving DecidableEq, Repr

def SchemaComplaint.message : SchemaComplaint → String
  | .unreadable why => s!"cannot read schema ({why})"
  | .invalidJson complaint line column =>
    s!"invalid JSON ({complaint} at line {line}, column {column})"
  | .notAnObject => "top level must be a JSON object"
  | .noField name => s!"missing required field '{name}'"
  | .argsNotArray => "'args' must be an array"
  | .argNotObject index => s!"args[{index}] must be an object"
  | .argUnnamed index => s!"args[{index}] has no name"
  | .badCommandName name => s!"invalid command name '{name}'"
  | .commandTaken name => s!"command '{name}' is defined more than once"
  | .moduleTaken name => s!"command '{name}' clashes with another command's module name"
  | .badFlagName name => s!"invalid flag name '{name}'"
  | .badShortName long short =>
    s!"short name of --{long} must be one letter or digit, got '{short}'"
  | .badType long fault => s!"--{long}: {fault.message}"
  | .unsafeChoice long literal =>
    s!"--{long}: enum value {literal} contains whitespace or quotes"
  | .defaultNotInteger long value => s!"default of --{long} is not an integer: '{value}'"
  | .defaultNotBoolean long value => s!"default of --{long} is not a boolean: '{value}'"
  | .defaultNotChoice long choices =>
    s!"default of --{long} must be one of: " ++ Text.join ", " choices
  | .flagRefused fault => fault.message

inductive SchemaFault
  | document (source : String) (complaint : SchemaComplaint)
  | noCommandsDirectory (project : String)
  | noProject (directory : String)
  | badProgramName (name : String)
  | noPayload
  | badPayload (why : String)
  deriving DecidableEq, Repr

def SchemaFault.message : SchemaFault → String
  | .document source complaint => s!"{source}: {complaint.message}"
  | .noCommandsDirectory project => s!"No 'commands' directory in {project}"
  | .noProject directory => s!"Project directory not found: {directory}"
  | .badProgramName name => s!"Invalid program name: '{name}'"
  | .noPayload => "Installer has no embedded payload"
  | .badPayload why => s!"Installer payload is not valid base64: {why}"

def SchemaFault.hint? : SchemaFault → Option String
  | .document _ (.badCommandName _) =>
    some "Names start with a letter and contain only letters, digits, '-' and '_'."
  | .noCommandsDirectory _ => some "Create commands/<name>/schema.json and main.py."
  | .badProgramName _ =>
    some "Pass --name with letters, digits, '-' or '_', starting with a letter."
  | _ => none

/-! ## 3. Accidents -/

/-- A failure that is not the framework's own: the files, an encoding, a numeral, or whatever a
handler raises.  It has a label and a text. -/
inductive Accident
  | files (fault : Files.Fault)
  | encoding (fault : Text.Utf8.Fault)
  | numeral (fault : Decimal.NumeralFault)
  | nesting (isArray : Bool)
  | notAscii
  | emptyModuleName
  | relativeModuleName (name : String)
  /-- More packages around a module are missing than are looked for. -/
  | tooManyPackages
  /-- Something that is no text stands where a path is due. -/
  | notAPath
  | raised (label text : String)
  deriving DecidableEq, Repr

def Accident.label : Accident → String
  | .files fault => fault.label
  | .encoding _ => "UnicodeDecodeError"
  | .numeral _ => "ValueError"
  | .nesting _ => "RecursionError"
  | .notAscii => "ValueError"
  | .emptyModuleName => "ValueError"
  | .relativeModuleName _ => "TypeError"
  | .tooManyPackages => "RecursionError"
  | .notAPath => "TypeError"
  | .raised label _ => label

def numeralText : Decimal.NumeralFault → String
  | .malformed s =>
    "invalid literal for int() with base 10: "
      ++ String.ofList ((Text.Quoted.encode s.toList).take 200)
  | .tooLong digits =>
    s!"Exceeds the limit ({Decimal.digitLimit} digits) for integer string conversion: "
      ++ s!"value has {digits} digits; use sys.set_int_max_str_digits() to increase the limit"

def Accident.text : Accident → String
  | .files fault => fault.text
  | .encoding fault => fault.text
  | .numeral fault => numeralText fault
  | .nesting isArray =>
    "maximum recursion depth exceeded while decoding a JSON "
      ++ (if isArray then "array" else "object") ++ " from a unicode string"
  | .notAscii => "string argument should contain only ASCII characters"
  | .emptyModuleName => "Empty module name"
  | .relativeModuleName name =>
    "the 'package' argument is required to perform a relative import for "
      ++ Text.Quoted.literal name
  | .tooManyPackages => "maximum recursion depth exceeded"
  | .notAPath => "expected str, bytes or os.PathLike object, not list"
  | .raised _ text => text

/-! ## 4. Failures -/

inductive Failure
  | usage (fault : UsageFault)
  | validation (fault : ValidationFault)
  | environment (fault : EnvironmentFault)
  | internal (fault : InternalFault)
  | external (fault : ExternalFault)
  | schema (fault : SchemaFault)
  /-- A failure of one of the framework's kinds that a handler declares in its own words. -/
  | declared (kind : Kind) (message : String) (hint : Option String)
  | accident (fault : Accident)
  /-- The user stopped the run. -/
  | interrupt
  deriving DecidableEq, Repr

namespace Failure

def kind? : Failure → Option Kind
  | .usage _ => some .usage
  | .validation _ => some .validation
  | .environment _ => some .environment
  | .internal _ => some .internal
  | .external _ => some .external
  | .schema _ => some .schema
  | .declared kind _ _ => some kind
  | .accident _ => none
  | .interrupt => none

def message : Failure → String
  | .usage fault => fault.message
  | .validation fault => fault.message
  | .environment fault => fault.message
  | .internal fault => fault.message
  | .external fault => fault.message
  | .schema fault => fault.message
  | .declared _ message _ => message
  | .accident fault => fault.text
  | .interrupt => ""

def hint? : Failure → Option String
  | .validation fault => fault.hint?
  | .environment fault => fault.hint?
  | .internal fault => fault.hint?
  | .schema fault => fault.hint?
  | .declared _ _ hint => hint
  | _ => none

def exitCode : Failure → Int
  | .interrupt => ExitCode.interrupted
  | failure => (failure.kind?.map Kind.exitCode).getD ExitCode.unforeseen

end Failure

end Toolsmith
