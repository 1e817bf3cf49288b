import Toolsmith.Flag.Basic
/-!
# The flag registry

The registry holds the flags of an application in the order of their registration, the groups of
flags that exclude one another, and what the last command line set.  A flag is registered only
if its type can be read and no flag that some command sees beside it has one of its names.
-/

namespace Toolsmith

/-! ## 1. Registering -/

structure Definition where
  flag : Flag
  type : ValueType
  type_eq : ValueType.ofText flag.type = .ok type
  deriving DecidableEq

/-- The flags of an application, their groups, and the values and positional arguments of the
last command line. -/
structure Registry where
  definitions : List Definition
  values : Table String
  positionals : List String
  groups : Table (List String)
  deriving DecidableEq

namespace Registry

def empty : Registry := ⟨[], .empty, [], .empty⟩

instance : Inhabited Registry := ⟨empty⟩

def seed (values : Table String) (flag : Flag) : Table String :=
  if flag.default = "" then values else values.put flag.long flag.default

/-- The registry with one more flag, whose default is its first value. -/
def register (registry : Registry) (flag : Flag) : Except InternalFault Registry :=
  match type_eq : ValueType.ofText flag.type with
  | .error fault => .error fault
  | .ok type =>
    match registry.definitions.findSome? fun older => Flag.clash? older.flag flag with
    | some fault => .error fault
    | none =>
      .ok { registry with
        definitions := registry.definitions ++ [⟨flag, type, type_eq⟩]
        values := seed registry.values flag }

/-- The registry with a group of long names of which at most one may be set.  A group of the same
name gives way and leaves its place. -/
def exclude (registry : Registry) (group : String) (longs : List String) : Registry :=
  { registry with groups := registry.groups.put group longs }

def verbosityGroup : String × List String := ("verbosity", ["verbose", "quiet"])

def builtinDefinitions : List Definition :=
  [⟨Flag.helpFlag, .switch, rfl⟩, ⟨Flag.verboseFlag, .switch, rfl⟩,
    ⟨Flag.quietFlag, .switch, rfl⟩, ⟨Flag.plainFlag, .switch, rfl⟩,
    ⟨Flag.versionFlag, .switch, rfl⟩]

def withBuiltins : Registry :=
  ⟨builtinDefinitions, .empty, [], .ofList [verbosityGroup]⟩

def shellDefinition : Definition := ⟨Flag.shellFlag, .choice ["bash", "zsh"], rfl⟩

def withShell : Registry :=
  { withBuiltins with definitions := builtinDefinitions ++ [shellDefinition] }

/-- Registering the built-in flags one after another gives the registry that holds them. -/
theorem foldlM_register_builtins :
    Flag.builtins.foldlM register { empty with groups := withBuiltins.groups }
      = .ok withBuiltins := by
  rfl

/-- The shell flag fits beside the built-in flags. -/
theorem register_shellFlag : withBuiltins.register Flag.shellFlag = .ok withShell := by
  rfl

def visible (registry : Registry) (command : String) : List Definition :=
  registry.definitions.filter fun d => d.flag.visibleTo command

/-! ## 2. What the last command line set -/

/-- The value under a long name; an empty or missing one gives way to the default. -/
def value (registry : Registry) (long : String) (default : String := "") : String :=
  match registry.values.get? long with
  | some v => if v = "" then default else v
  | none => default

def isSet (registry : Registry) (long : String) : Bool := registry.value long ≠ ""

def isTrue (registry : Registry) (long : String) : Bool :=
  registry.values.get? long = some "true"

/-- The positional argument at an index from zero; an empty or missing one gives way to the
default. -/
def positional (registry : Registry) (index : Int) (default : String := "") : String :=
  if index < 0 then default
  else
    match registry.positionals[index.toNat]? with
    | some s => if s = "" then default else s
    | none => default

end Registry

end Toolsmith
