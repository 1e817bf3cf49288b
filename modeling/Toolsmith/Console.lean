/-!
# Messages to the user

Messages go to standard error with a word in front that says how grave they are.
-/

namespace Toolsmith.Console

def marked (word message : String) : String := word ++ " " ++ message ++ "\n"

def error (message : String) (hint : Option String) : String :=
  match hint with
  | none => marked "Error:" message
  | some hint => marked "Error:" message ++ (if hint = "" then "" else marked "Hint:" hint)

def warning (message : String) : String := marked "Warning:" message

def success (message : String) : String := marked "OK:" message

def plain (message : String) : String := message ++ "\n"

/-- A line of text: with a line feed at its end, unless it has one. -/
def ended (text : String) : String := if text.endsWith "\n" then text else text ++ "\n"

def unforeseen : String := "Unexpected error. Please report this issue."

end Toolsmith.Console
