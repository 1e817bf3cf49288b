/-!
# Cutting and joining

Texts cut at a character, joined with a separator, padded to a width, and changed where a
pattern occurs.
-/

namespace Toolsmith.Text

/-- The pieces between the occurrences of a character; without one, the whole text. -/
def split (sep : Char) (s : String) : List String :=
  (s.toList.splitOn sep).map String.ofList

def cutChars (sep : Char) : List Char → Option (List Char × List Char)
  | [] => none
  | c :: cs => if c = sep then some ([], cs) else (cutChars sep cs).map fun p => (c :: p.1, p.2)

def cut? (sep : Char) (s : String) : Option (String × String) :=
  (cutChars sep s.toList).map fun p => (String.ofList p.1, String.ofList p.2)

def join (sep : String) (parts : List String) : String := String.intercalate sep parts

def startsWith (s start : String) : Bool := start.toList.isPrefixOf s.toList

def endsWith (s ending : String) : Bool := ending.toList.isSuffixOf s.toList

def holdsChars (part : List Char) : List Char → Bool
  | [] => part.isEmpty
  | c :: cs => part.isPrefixOf (c :: cs) || holdsChars part cs

def holds (part s : String) : Bool := holdsChars part.toList s.toList

/-- What follows the beginning `start` of a text; nothing if it begins otherwise. -/
def dropStart? (s start : String) : Option String :=
  if startsWith s start then some (String.ofList (s.toList.drop start.toList.length)) else none

def padEnd (width : Nat) (s : String) : String := String.ofList (s.toList.rightpad width ' ')

def replaceChar (old new : Char) (s : String) : String :=
  String.ofList (s.toList.map fun c => if c = old then new else c)

/-- The occurrences of `old`, found from the left and without overlap, replaced by `new`; `skip`
counts the characters of an occurrence that are still to be passed over. -/
def replaceFrom (old new : List Char) : Nat → List Char → List Char
  | _, [] => []
  | skip + 1, _ :: cs => replaceFrom old new skip cs
  | 0, c :: cs =>
    if old.isPrefixOf (c :: cs) then new ++ replaceFrom old new (old.length - 1) cs
    else c :: replaceFrom old new 0 cs

def replaceAll (old new s : String) : String :=
  String.ofList (replaceFrom old.toList new.toList 0 s.toList)

def lowerChar (c : Char) : Char :=
  if 'A' ≤ c ∧ c ≤ 'Z' then Char.ofNat (c.toNat + 32) else c

/-- A text with its letters A to Z in their small form.  A comparison with a word of the small
letters a to z other than k needs no more: the Kelvin sign is the one character outside ASCII
whose small form lies in it. -/
def lowerLetters (s : String) : String := String.ofList (s.toList.map lowerChar)

end Toolsmith.Text
