import Toolsmith.Failure
/-!
# Types of flag values

The type of a flag is declared by a text: one of five words, or `enum:` followed by choices
between colons.  Empty choices do not count, and at least one must remain.
-/

namespace Toolsmith

inductive ValueType
  | text
  | integer
  | boolean
  | path
  | choice (choices : List String)
  /-- A flag that is set and takes no value. -/
  | switch
  deriving DecidableEq, Repr

namespace ValueType

def plainWords : List (String × ValueType) :=
  [("string", .text), ("int", .integer), ("bool", .boolean), ("path", .path), ("none", .switch)]

def choiceMark : String := "enum:"

/-- The choices in a text: its non-empty pieces between colons. -/
def choicesIn (s : String) : List String := (Text.split ':' s).filter (· ≠ "")

def ofText (s : String) : Except InternalFault ValueType :=
  match Text.dropStart? s choiceMark with
  | some rest =>
    if choicesIn rest = [] then .error (.noChoices s) else .ok (.choice (choicesIn rest))
  | none =>
    match plainWords.lookup s with
    | some type => .ok type
    | none => .error (.unknownType s)

@[simp] theorem ofText_string : ofText "string" = .ok .text := rfl

@[simp] theorem ofText_bool : ofText "bool" = .ok .boolean := rfl

@[simp] theorem ofText_none : ofText "none" = .ok .switch := rfl

def word : ValueType → String
  | .text => "string"
  | .integer => "int"
  | .boolean => "bool"
  | .path => "path"
  | .choice _ => "enum"
  | .switch => "none"

/-- The normal form of the text that declares a type. -/
def toText : ValueType → String
  | .choice choices => choiceMark ++ Text.join ":" choices
  | type => type.word

def choices : ValueType → List String
  | .choice choices => choices
  | _ => []

/-- Whether the token after a flag of this type may be its value. -/
def takesValue : ValueType → Bool
  | .boolean | .switch => false
  | _ => true

def placeholder : ValueType → String
  | .choice choices => "<" ++ Text.join "|" choices ++ ">"
  | .boolean | .switch => ""
  | type => "<" ++ type.word ++ ">"

end ValueType

end Toolsmith
