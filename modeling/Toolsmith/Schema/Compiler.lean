import Toolsmith.Schema.Document
import Toolsmith.Completion.Catalogue
/-!
# Compiling schemas

The compiler checks schemas one after another.  What it accepts can be registered with an
application: it tries every flag on a registry of its own, which has the built-in flags and those
of all commands before.  Types and defaults are brought into their normal form.
-/

namespace Toolsmith

/-! ## 1. Compilers -/

structure Compiled where
  schema : Schema
  /-- The file with the command's handler. -/
  handler : Path
  /-- The name of the module that the handler becomes. -/
  module : String
  flags : List Flag
  deriving DecidableEq, Repr

/-- A compiler with what it has accepted so far, the directories that it left out, each with the
reason, and its registry. -/
structure Compiler where
  catalogue : Catalogue
  commands : List Compiled
  skipped : List (String × String)
  registry : Registry

namespace Compiler

def fresh : Compiler := ⟨.withBuiltins, [], [], .withShell⟩

instance : Inhabited Compiler := ⟨fresh⟩

def moduleName (command : String) : String := Text.replaceChar '-' '_' command

/-! ## 2. Checking flags -/

def isShortName (s : String) : Bool :=
  match s.toList with
  | [c] => c.isAlphanum
  | _ => false

/-- A character that a choice may not have, since it would not survive in a word list of a shell:
a blank, a quote, a backslash, a backtick or a dollar sign. -/
def isUnsafe (c : Char) : Bool :=
  Text.isBlank c || c == '\'' || c == '"' || c == '\x60' || c == '\\' || c == '$'

def isUnsafeChoice (choice : String) : Bool := choice.toList.any isUnsafe

/-- A default in its normal form, if it is of the flag's type.  An empty default is none.
Whether a path is there is not asked before the application runs. -/
def checkDefault (long : String) (type : ValueType) (default : String) :
    Except SchemaComplaint String :=
  if default = "" then .ok default
  else
    match type with
    | .integer =>
      if Check.isInteger default then .ok default else .error (.defaultNotInteger long default)
    | .boolean =>
      if Check.isBoolean default then .ok (Check.normalizeBoolean default)
      else .error (.defaultNotBoolean long default)
    | .choice choices =>
      if Check.isChoice default choices then .ok default
      else .error (.defaultNotChoice long choices)
    | _ => .ok default

def checkArg (command : String) (lone : Text.StandIns) (arg : Arg) :
    Except SchemaComplaint Flag := do
  if !Check.isName arg.name then throw (.badFlagName arg.name)
  if arg.short ≠ "" && !isShortName arg.short then throw (.badShortName arg.name arg.short)
  let type ←
    match ValueType.ofText arg.type with
    | .ok type => pure type
    | .error fault => throw (.badType arg.name fault)
  match type.choices.find? isUnsafeChoice with
  | some choice => throw (.unsafeChoice arg.name (Text.Quoted.literal choice lone))
  | none => pure ()
  let default ← checkDefault arg.name type arg.default
  return {
    long := arg.name
    short := arg.short
    type := type.toText
    required := arg.required
    default
    help := arg.help
    scope := command }

/-! ## 3. Compiling -/

/-- Registers flags in order, up to the first that is refused. -/
def registerAll : List Flag → Registry → Registry × Option InternalFault
  | [], registry => (registry, none)
  | flag :: flags, registry =>
    match registry.register flag with
    | .ok registry => registerAll flags registry
    | .error fault => (registry, some fault)

/-- The flags of a schema whose name is free. -/
def checkSchema (compiler : Compiler) (schema : Schema) : Except SchemaComplaint (List Flag) := do
  let name := schema.name
  if !Check.isName name then throw (.badCommandName name)
  if compiler.catalogue.commands.contains name then throw (.commandTaken name)
  if compiler.commands.any fun c => c.module = moduleName name then throw (.moduleTaken name)
  schema.args.mapM (checkArg name schema.lone)

def accept (compiler : Compiler) (command : Compiled) : Compiler :=
  let name := command.schema.name
  { compiler with
    catalogue := command.flags.foldl (fun c flag => c.addFlag name flag)
      (compiler.catalogue.addCommand name command.schema.description)
    commands := compiler.commands ++ [command] }

/-- Where a schema was read, or else the name of its command. -/
def sourceText (schema : Schema) : String := (schema.source.map Path.text).getD schema.name

/-- Checks a schema and enters its command.  A refused schema is not entered; the registry keeps
those of its flags that came before the refused one. -/
def compile (compiler : Compiler) (schema : Schema) (handler : Path) :
    Compiler × Except SchemaFault Compiled :=
  match compiler.checkSchema schema with
  | .error complaint => (compiler, .error (.document (sourceText schema) complaint))
  | .ok flags =>
    match registerAll flags compiler.registry with
    | (registry, some fault) =>
      ({ compiler with registry }, .error (.document (sourceText schema) (.flagRefused fault)))
    | (registry, none) =>
      let command : Compiled := ⟨schema, handler, moduleName schema.name, flags⟩
      ({ compiler with registry }.accept command, .ok command)

end Compiler

end Toolsmith
