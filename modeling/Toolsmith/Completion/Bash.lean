import Toolsmith.Completion.Model
/-!
# The completion script for bash

The first word is completed from the commands and the global flags.  After that the first word
that begins with no dash chooses the command: its flags are offered beside the global ones, and
behind a flag that has a slot what the slot offers.
-/

namespace Toolsmith.Completion.Bash

/-! ## 1. Words and replies -/

/-- The statement that offers what is left when `compgen` has matched its source with the current
word. -/
def reply (source : String) : String :=
  "COMPREPLY=($(compgen " ++ source ++ " -- \"$\x7bcur\x7d\"))"

def wordList (words : List String) : String := "-W \"" ++ Text.join " " words ++ "\""

def commandsVariable : String := "$\x7bcommands\x7d"

def globalsVariable : String := "$\x7bglobal_flags\x7d"

/-! ## 2. The fixed parts -/

def findWords : List String :=
  ["    local cur prev words cword",
    "    if declare -F _init_completion >/dev/null 2>&1; then",
    "        _init_completion -n = || return",
    "    else",
    "        COMPREPLY=()",
    "        cur=\"$\x7bCOMP_WORDS[COMP_CWORD]\x7d\"",
    "        prev=\"$\x7bCOMP_WORDS[COMP_CWORD-1]\x7d\"",
    "        words=(\"$\x7bCOMP_WORDS[@]\x7d\")",
    "        cword=\"$\x7bCOMP_CWORD\x7d\"",
    "    fi",
    "",
    "    # --flag=value arrives as one word or as \"--flag\" \"=\" \"value\"",
    "    if [[ \"$\x7bcur\x7d\" == --*=* ]]; then",
    "        prev=\"$\x7bcur%%=*\x7d\"",
    "        cur=\"$\x7bcur#*=\x7d\"",
    "    elif [[ \"$\x7bcur\x7d\" == \"=\" ]]; then",
    "        cur=\"\"",
    "    elif [[ \"$\x7bprev\x7d\" == \"=\" && $\x7bcword\x7d -ge 2 ]]; then",
    "        prev=\"$\x7bwords[cword-2]\x7d\"",
    "    fi",
    ""]

def findCommand : List String :=
  ["    local cmd=\"\" i",
    "    for ((i = 1; i < cword; i++)); do",
    "        if [[ \"$\x7bwords[i]\x7d\" != -* ]]; then",
    "            cmd=\"$\x7bwords[i]\x7d\"",
    "            break",
    "        fi",
    "    done",
    ""]

def preamble (c : Completion) : List String :=
  ["# bash completion for " ++ c.program ++ ". Generated by schemacli; do not edit.",
    "",
    c.functionName ++ "_completions() \x7b"]
  ++ findWords ++
  ["    local commands=\"" ++ Text.join " " c.names ++ "\"",
    "    local global_flags=\"" ++ Text.join " " c.globalWords ++ "\"",
    "",
    "    if [[ $\x7bcword\x7d -eq 1 ]]; then",
    "        " ++ reply (wordList [commandsVariable, globalsVariable]),
    "        return 0",
    "    fi",
    ""]
  ++ findCommand ++
  ["    case \"$\x7bcmd\x7d\" in"]

def epilogue (c : Completion) : List String :=
  ["        *)",
    "            " ++ reply (wordList [globalsVariable]),
    "            return 0",
    "            ;;",
    "    esac",
    "\x7d",
    "",
    "complete -F " ++ c.functionName ++ "_completions " ++ c.program]

/-! ## 3. The cases -/

def offerSource : Offer → String
  | .files => "-f"
  | .words words => wordList words

def slotCase (slot : Slot) : List String :=
  ["                " ++ Text.join "|" slot.spellings ++ ")",
    "                    " ++ reply (offerSource slot.offer),
    "                    return 0",
    "                    ;;"]

def slotCases (slots : List Slot) : List String :=
  if slots.isEmpty then []
  else ["            case \"$\x7bprev\x7d\" in"] ++ slots.flatMap slotCase ++ ["            esac"]

def topicBody (topic : Topic) : List String :=
  if topic.takesCommands then ["            " ++ reply (wordList [commandsVariable])]
  else
    slotCases topic.slots
      ++ ["            " ++ reply (wordList (topic.words ++ [globalsVariable]))]

def topicCase (topic : Topic) : List String :=
  ["        " ++ topic.name ++ ")"] ++ topicBody topic ++ ["            return 0", "            ;;"]

/-- The cases of all commands; without any, a blank line stands for them. -/
def topicCases (topics : List Topic) : List String :=
  if topics.isEmpty then [""] else topics.flatMap topicCase

def lines (c : Completion) : List String := preamble c ++ topicCases c.topics ++ epilogue c

def script (c : Completion) : String := Text.join "\n" (lines c) ++ "\n"

end Toolsmith.Completion.Bash
