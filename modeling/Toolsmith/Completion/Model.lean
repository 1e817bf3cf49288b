import Toolsmith.Text.Word
import Toolsmith.Completion.Catalogue
/-!
# What completion offers

The model behind the completion scripts, free of any shell: the commands with their flags, the
global flags, and what is offered in the place of a flag's value.  It is built from a catalogue,
and fails only for a flag whose type cannot be read.
-/

namespace Toolsmith

/-! ## 1. The model -/

namespace Completion

/-- What is offered in the place of a value: some words, or the files that are there. -/
inductive Offer
  | words (words : List String)
  | files
  deriving DecidableEq, Repr

/-- The place of a flag's value: what may stand before it, and what is offered in it. -/
structure Slot where
  spellings : List String
  offer : Offer
  deriving DecidableEq, Repr

structure Spelling where
  text : String
  description : String
  slot : Option Slot
  deriving DecidableEq, Repr

structure Topic where
  name : String
  description : String
  spellings : List Spelling
  slots : List Slot
  deriving DecidableEq, Repr

namespace Topic

/-- Whether the arguments of a command are names of commands. -/
def takesCommands (topic : Topic) : Bool := topic.name = Builtin.help.name

def words (topic : Topic) : List String := topic.spellings.map Spelling.text

end Topic

end Completion

structure Completion where
  program : String
  topics : List Completion.Topic
  globals : List Completion.Spelling
  deriving DecidableEq, Repr

namespace Completion

def names (c : Completion) : List String := c.topics.map Topic.name

def globalWords (c : Completion) : List String := c.globals.map Spelling.text

def functionChar (ch : Char) : Char := if Text.isWordChar ch then ch else '_'

def functionName (c : Completion) : String := "_" ++ c.program.map functionChar

/-! ## 2. From the catalogue -/

def truthWords : List String := ["true", "false"]

def Offer.ofType : ValueType → Option Offer
  | .boolean => some (.words truthWords)
  | .path => some .files
  | .choice choices => some (.words choices)
  | .text | .integer | .switch => none

def slotOf (spellings : List String) (type : String) : Except InternalFault (Option Slot) :=
  (ValueType.ofText type).map fun type => (Offer.ofType type).map (Slot.mk spellings)

/-- The description of a flag: its help, or its long name if it has none. -/
def describedBy (long help : String) : String := if help = "" then long else help

def entryOf (long short type help : String) :
    Except InternalFault (List Spelling × Option Slot) := do
  let texts := Flag.spellingsOf long short
  let slot ← slotOf texts type
  return (texts.map fun text => ⟨text, describedBy long help, slot⟩, slot)

def flagOf (c : Catalogue) (command long : String) :
    Except InternalFault (List Spelling × Option Slot) :=
  let key := Catalogue.flagKey command long
  entryOf long ((c.flagShorts.get? key).getD "") ((c.flagTypes.get? key).getD "")
    ((c.flagHelp.get? key).getD "")

def topicOf (c : Catalogue) (command : String) : Except InternalFault Topic := do
  let flags ← (c.flagNames command).mapM (flagOf c command)
  return {
    name := command
    description := (c.descriptions.get? command).getD ""
    spellings := flags.flatMap Prod.fst
    slots := flags.filterMap Prod.snd }

def ofCatalogue (c : Catalogue) (program : String) : Except InternalFault Completion := do
  let topics ← c.commands.mapM (topicOf c)
  let globals ← c.globalFlags.mapM fun flag => entryOf flag.long flag.short flag.type flag.help
  return { program, topics, globals := globals.flatMap Prod.fst }

end Completion

end Toolsmith
