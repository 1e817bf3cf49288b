import Toolsmith.Command.Registry
/-!
# Deferred handlers

A deferred handler names the module that holds the real one, and its member there, and looks for it
when it is called.  A module can be imported if it is there, and so can every package that a
module lies in.  A plain module holds no others, even if their names say so.
-/

namespace Toolsmith

/-- What can be imported: a plain module, with what its members denote, or a package, which holds
modules and has no members. -/
inductive Importable (H : Type)
  | plain (members : Table (Binding H))
  | package

def Importable.member? {H : Type} (i : Importable H) (name : String) : Option (Binding H) :=
  match i with
  | .plain members => members.get? name
  | .package => none

def Importable.isPackage {H : Type} : Importable H → Bool
  | .plain _ => false
  | .package => true

abbrev Modules (H : Type) := Table (Importable H)

/-- A handler that is looked for when it is called. -/
structure Deferred where
  command : String
  module : String
  member : String
  deriving DecidableEq, Repr

namespace Deferred

/-- A deferred handler; without a member the conventional name is meant. -/
def make (command module member : String) : Deferred :=
  ⟨command, module, if member = "" then conventionalName command else member⟩

def text (d : Deferred) : String :=
  let parts := [d.command, d.module, d.member].map fun part => Text.Quoted.literal part
  "LazyHandler(" ++ Text.join ", " parts ++ ")"

def canImport {H : Type} (modules : Modules H) (name : String) : Bool :=
  modules.keys.any fun key => key = name || Text.startsWith key (name ++ ".")

def holdsModules {H : Type} (modules : Modules H) (name : String) : Bool :=
  ((modules.get? name).map Importable.isPackage).getD (canImport modules name)

/-- Where the way to a module ends: the first name on it that cannot be imported, the name before it
if that is there but holds no modules, and how many names cannot be imported. -/
structure Gap where
  missing : String
  home? : Option String
  count : Nat
  deriving DecidableEq, Repr

/-- The gap on the way along the parts of a dotted name, from what has been found so far. -/
def gapAfter? {H : Type} (modules : Modules H) (found : Option String) : List String → Option Gap
  | [] => none
  | part :: parts =>
    let name := match found with
      | some home => home ++ "." ++ part
      | none => part
    if canImport modules name then gapAfter? modules (some name) parts
    else some ⟨name, found.filter fun home => !holdsModules modules home, parts.length + 1⟩

/-- The most names that may be missing before the search for a module is given up. -/
def missingLimit : Nat := 246

def resolve {H : Type} (modules : Modules H) (d : Deferred) : Except Failure (Callable H) :=
  if d.module = "" then .error (.accident .emptyModuleName)
  else if Text.startsWith d.module "." then .error (.accident (.relativeModuleName d.module))
  else
    match gapAfter? modules none (Text.split '.' d.module) with
    | some gap =>
      if gap.count > missingLimit then .error (.accident .tooManyPackages)
      else .error (.internal (.notImported d.module d.command gap.missing gap.home?))
    | none =>
      match ((modules.get? d.module).bind (·.member? d.member)).bind Binding.callable? with
      | some handler => .ok handler
      | none => .error (.internal (.notInModule d.member d.command))

end Deferred

end Toolsmith
