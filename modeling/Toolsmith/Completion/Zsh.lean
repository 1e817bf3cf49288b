import Toolsmith.Completion.Model
/-!
# The completion script for zsh

Each spelling of a flag becomes an option specification: the spelling, its description between
brackets, and an action if it has a slot.  In the description the characters that end a part are
protected by backslashes; the whole specification is a word between single quotes.
-/

namespace Toolsmith.Completion.Zsh

/-! ## 1. Words and specifications -/

/-- One character inside single quotes: a single quote ends them, stands for itself behind a
backslash, and begins them anew. -/
def quoteChar (c : Char) : List Char := if c = '\'' then ['\'', '\\', '\'', '\''] else [c]

def quote (s : String) : String :=
  "'" ++ String.ofList (s.toList.flatMap quoteChar) ++ "'"

/-- Whether a character has a meaning of its own in a specification. -/
def isSpecial (c : Char) : Bool := c == '\\' || c == '[' || c == ']' || c == ':'

def describeChar (c : Char) : List Char := if isSpecial c then ['\\', c] else [c]

def describe (s : String) : String := String.ofList (s.toList.flatMap describeChar)

def action : Offer → String
  | .files => ":path:_files"
  | .words words => ":value:(" ++ Text.join " " words ++ ")"

def specification (spelling : Spelling) : String :=
  spelling.text ++ "[" ++ describe spelling.description ++ "]"
    ++ ((spelling.slot.map fun slot => action slot.offer).getD "")

def optionWord (spelling : Spelling) : String := quote (specification spelling)

/-! ## 2. The script -/

def describeCommands : String := "_describe -t commands 'command' commands"

def globalsWord : String := "\"$\x7bglobal_opts[@]\x7d\""

def preamble (c : Completion) : List String :=
  ["#compdef " ++ c.program,
    "# zsh completion. Generated by schemacli; do not edit.",
    "",
    c.functionName ++ "() \x7b",
    "    local context state state_descr line",
    "    typeset -A opt_args",
    "    local -a commands global_opts",
    "",
    "    global_opts=("]

def commandLine (topic : Topic) : String :=
  "        " ++ quote (topic.name ++ ":" ++ topic.description)

def switchOver : List String :=
  ["    )",
    "",
    "    _arguments -C \\",
    "        " ++ globalsWord ++ " \\",
    "        '1: :->command' \\",
    "        '*:: :->args'",
    "",
    "    case $state in",
    "        command)",
    "            " ++ describeCommands,
    "            ;;",
    "        args)",
    "            case $words[1] in"]

def topicBody (topic : Topic) : List String :=
  if topic.takesCommands then ["                    " ++ describeCommands]
  else
    ["                    _arguments \\"]
      ++ topic.spellings.map (fun spelling =>
        "                        " ++ optionWord spelling ++ " \\")
      ++ ["                        " ++ globalsWord]

def topicCase (topic : Topic) : List String :=
  ["                " ++ topic.name ++ ")"] ++ topicBody topic ++ ["                    ;;"]

def epilogue (c : Completion) : List String :=
  ["                *)",
    "                    _arguments " ++ globalsWord,
    "                    ;;",
    "            esac",
    "            ;;",
    "    esac",
    "\x7d",
    "",
    "compdef " ++ c.functionName ++ " " ++ c.program]

def lines (c : Completion) : List String :=
  preamble c ++ c.globals.map (fun spelling => "        " ++ optionWord spelling)
    ++ ["    )", "", "    commands=("] ++ c.topics.map commandLine ++ switchOver
    ++ c.topics.flatMap topicCase ++ epilogue c

def script (c : Completion) : String := Text.join "\n" (lines c) ++ "\n"

end Toolsmith.Completion.Zsh
