import Toolsmith.Decimal.Shortest
/-!
# JSON values

A JSON document as a value.  Numbers without fraction and exponent are whole and exact, the
others are floating-point numbers.  An object keeps its fields as they are written; of two fields
with one name the later counts.
-/

namespace Toolsmith

inductive Json
  | null
  | bool (b : Bool)
  | integer (n : Int)
  | float (x : Decimal.Binary64)
  | string (s : String)
  | array (items : List Json)
  | object (fields : List (String × Json))
  deriving Repr

namespace Json

/-- The value of the last field of a name. -/
def field? (fields : List (String × Json)) (name : String) : Option Json :=
  fields.reverse.lookup name

def isScalar : Json → Bool
  | .array _ | .object _ => false
  | _ => true

/-- The field of a name if its value is a scalar; an array or object counts as absent. -/
def scalar? (fields : List (String × Json)) (name : String) : Option Json :=
  (field? fields name).filter isScalar

/-- A scalar as one would type it: null is empty, text stands for itself. -/
def scalarText : Json → String
  | .bool b => if b then "true" else "false"
  | .integer n => toString n
  | .float x => x.text
  | .string s => s
  | _ => ""

end Json

end Toolsmith
