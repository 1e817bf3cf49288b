import Toolsmith.Failure
import Toolsmith.Tool
/-!
# The doctor

The doctor looks at a machine and says whether artifacts can be built and installed on it.  Only
an interpreter that is too old is a failure; whatever else is missing is a warning.
-/

namespace Toolsmith

/-! ## 1. Machines -/

/-- What the doctor sees of a machine: where its tools are, the version of its interpreter, its
system, and the version of the library for rich output if that is there (empty if unknown). -/
structure Machine where
  tools : Table String
  interpreter : List Nat
  system : String
  release : String
  hardware : String
  rich : Option String
  deriving Repr

namespace Doctor

/-! ## 2. Findings -/

/-- How a finding is judged; a failure says what would be needed. -/
inductive Status
  | ok
  | warning
  | failure (need : String)
  deriving DecidableEq, Repr

def Status.markup : Status → String
  | .ok => "[green]OK[/green]"
  | .warning => "[yellow]WARN[/yellow]"
  | .failure need => "[red]FAIL (" ++ need ++ ")[/red]"

/-- The words for judgements, the gravest first. -/
def statusWords : List String := ["FAIL", "WARN", "OK"]

/-- The gravest word for a judgement that a text holds; without one, the text. -/
def plainStatus (text : String) : String :=
  (statusWords.find? fun word => Text.holds word text).getD text

structure Finding where
  label : String
  value : String
  status : Status
  deriving DecidableEq, Repr

/-! ## 3. The examination -/

def oldest : List Nat := [3, 10]

def versionText (version : List Nat) : String := Text.join "." (version.map toString)

def isNewEnough (version : List Nat) : Bool :=
  !(version.take oldest.length).lex oldest fun a b => a < b

def interpreter (m : Machine) : Finding :=
  ⟨"Python", versionText m.interpreter,
    if isNewEnough m.interpreter then .ok
    else .failure (">=" ++ versionText oldest ++ " required")⟩

def rich (m : Machine) : Finding :=
  match m.rich with
  | none => ⟨"rich", "not installed (plain output)", .warning⟩
  | some version => ⟨"rich", if version = "" then "unknown" else version, .ok⟩

/-- Where a tool is, seen from a directory.  A place that is no path ends the examination. -/
def locate? (here : List String) (m : Machine) (tool : String) :
    Except Files.Fault (Option String) :=
  match (m.tools.get? tool).filter (· ≠ "") with
  | none => .ok none
  | some place => (Files.resolvePath here place).map fun path => some path.text

def tool (here : List String) (m : Machine) (name : String) : Except Files.Fault Finding := do
  match ← locate? here m name with
  | some path => return ⟨name, path, .ok⟩
  | none => return ⟨name, "not found", .warning⟩

def decoders : List String := ["base64", "openssl"]

/-- The first of some tools that is there, with its place.  Those after it are not looked for. -/
def firstFound? (here : List String) (m : Machine) :
    List String → Except Files.Fault (Option (String × String))
  | [] => .ok none
  | name :: names => do
    match ← locate? here m name with
    | some path => return some (name, path)
    | none => firstFound? here m names

def decoder (here : List String) (m : Machine) : Except Files.Fault Finding := do
  match ← firstFound? here m decoders with
  | some (name, path) => return ⟨"decoder", name ++ " (" ++ path ++ ")", .ok⟩
  | none => return ⟨"decoder", "neither base64 nor openssl found", .warning⟩

def systemName (system : String) : String := if system = "Darwin" then "macOS" else system

def system (m : Machine) : Finding :=
  ⟨"OS", systemName m.system ++ " " ++ m.release ++ " (" ++ m.hardware ++ ")", .ok⟩

def examine (here : List String) (m : Machine) : Except Files.Fault (List Finding) := do
  let bash ← tool here m "bash"
  let zsh ← tool here m "zsh"
  let decoder ← decoder here m
  return [⟨Tool.name, Tool.version, .ok⟩, interpreter m, rich m, bash, zsh, decoder, system m]

/-! ## 4. The report -/

def width : Nat := 64

def row (label value status : String) : String :=
  Text.padEnd 12 label ++ " " ++ Text.padEnd 40 value ++ " " ++ Text.padEnd 8 status

def findingRow (f : Finding) : String := row f.label f.value (plainStatus f.status.markup)

def isFailure (f : Finding) : Bool :=
  match f.status with
  | .failure _ => true
  | _ => false

def verdict (findings : List Finding) : String :=
  if findings.any isFailure then "Some checks failed." else "All checks passed."

def lines (findings : List Finding) : List String :=
  ["", Tool.name ++ " doctor", String.ofList (List.replicate width '='),
    row "Component" "Value" "Status", String.ofList (List.replicate width '-')]
  ++ findings.map findingRow ++ ["", verdict findings]

def report (findings : List Finding) : String := String.join ((lines findings).map (· ++ "\n"))

def exitCode (findings : List Finding) : Int :=
  if findings.any isFailure then Kind.environment.exitCode else ExitCode.success

end Doctor

end Toolsmith
