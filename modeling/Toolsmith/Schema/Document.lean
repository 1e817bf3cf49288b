import Toolsmith.Failure
import Toolsmith.Json.StandIns
import Toolsmith.Text.Lines
/-!
# Schema documents

A schema document describes one command: its name, what it does, and its flags.  It is a flat
JSON object.  Scalars may be of any kind and are taken as one would type them; a value that is an
array or an object counts as absent, except the array of the flags.
-/

namespace Toolsmith

structure Arg where
  name : String
  short : String := ""
  type : String := "string"
  required : Bool := false
  default : String := ""
  help : String := ""
  deriving DecidableEq, Repr

/-- A command as a schema declares it, where the schema was read, and what stands in for lone
surrogates in its texts. -/
structure Schema where
  name : String
  description : String
  args : List Arg
  source : Option Path
  lone : Text.StandIns := []
  deriving DecidableEq, Repr

namespace Schema

def fieldText (fields : List (String × Json)) (name : String) : String :=
  ((Json.scalar? fields name).map Json.scalarText).getD ""

/-- Whether a field says yes: it is true, or the word for it in letters of any size. -/
def fieldHolds (fields : List (String × Json)) (name : String) : Bool :=
  match Json.scalar? fields name with
  | some (.bool b) => b
  | some (.string s) => Text.lowerLetters s = "true"
  | _ => false

def argOfJson (index : Nat) (item : Json) : Except SchemaComplaint Arg :=
  match item with
  | .object fields =>
    let name := Text.trim (fieldText fields "name")
    if name = "" then .error (.argUnnamed index)
    else
      let type := Text.trim (fieldText fields "type")
      .ok
        { name
          short := Text.trim (fieldText fields "short")
          type := if type = "" then "string" else type
          required := fieldHolds fields "required"
          default := fieldText fields "default"
          help := fieldText fields "help" }
  | _ => .error (.argNotObject index)

/-- The flags that items declare, counted from an index on. -/
def argsOfJson : Nat → List Json → Except SchemaComplaint (List Arg)
  | _, [] => .ok []
  | index, item :: items => do
    let arg ← argOfJson index item
    let args ← argsOfJson (index + 1) items
    return arg :: args

def ofJson (document : Json) (source : Option Path) (lone : Text.StandIns := []) :
    Except SchemaComplaint Schema :=
  match document with
  | .object fields => do
    let name := Text.trim (fieldText fields "name")
    let description := Text.trim (fieldText fields "description")
    if name = "" then throw (.noField "name")
    if description = "" then throw (.noField "description")
    let args ←
      match Json.field? fields "args" with
      | none | some .null => pure []
      | some (.array items) => argsOfJson 0 items
      | some _ => throw .argsNotArray
    return { name, description, args, source, lone }
  | _ => .error .notAnObject

def ofBytes (path : Path) (bytes : List UInt8) (lone : Text.StandIns := []) :
    Except Failure Schema :=
  let refuse (complaint : SchemaComplaint) : Except Failure Schema :=
    .error (.schema (.document path.text complaint))
  match Text.Utf8.decode bytes with
  | .error fault => .error (.accident (.encoding fault))
  | .ok cs =>
    let cs := Text.unifyNewlines cs
    match Json.read cs lone with
    | .error (.malformed complaint left) =>
      let (line, column) := Json.position cs left
      refuse (.invalidJson complaint.text line column)
    | .error (.numeral fault) => .error (.accident (.numeral fault))
    | .error (.tooDeep isArray) => .error (.accident (.nesting isArray))
    | .ok document =>
      match ofJson document (some path) lone with
      | .ok schema => .ok schema
      | .error complaint => refuse complaint

def load (files : Files) (path : Path) (lone : Text.StandIns := []) : Except Failure Schema :=
  match files.read path with
  | .ok bytes => ofBytes path bytes lone
  | .error (.refused reason _) => .error (.schema (.document path.text (.unreadable reason.text)))
  | .error fault => .error (.accident (.files fault))

end Schema

end Toolsmith
