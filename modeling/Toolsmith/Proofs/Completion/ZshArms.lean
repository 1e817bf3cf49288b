import Toolsmith.Proofs.Completion.BashArms
import Toolsmith.Proofs.Completion.Zsh
/-!
# The arms of the script for zsh

The script is read like the one for bash (`armsOf_script`).  The arm of a command has one line, and
each of its words but the first and the last is read back as a specification, with the spelling, the
description and the offer (`optionsIn_body`).
-/

namespace Toolsmith.Completion.Zsh

open ShellWords

/-! ## 1. Reading -/

open Bash (CleanTopic CleanModel Clean Spelled)

def commandWord : String := "$words[1]"

def globalsValue : String := "$\x7bglobal_opts[@]\x7d"

/-- An option specification as it is read: the spelling, the description without its backslashes,
and what the action offers if there is one. -/
structure OptionSpec where
  text : String
  description : String
  offer : Option Offer
  deriving DecidableEq, Repr

/-- What an action offers; nothing if it is none of the known kinds. -/
def offer? (action : String) : Option (Option Offer) :=
  if action = "" then some none
  else if action = ":path:_files" then some (some .files)
  else
    match Text.dropStart? action ":value:(" with
    | some list =>
      if Text.endsWith list ")" then
        some (some (.words (Text.split ' ' (String.ofList list.toList.dropLast))))
      else none
    | none => none

def option? (word : String) : Option OptionSpec :=
  match cutFree '[' false word.toList with
  | none => none
  | some (text, rest) =>
    match cutFree ']' false rest with
    | none => none
    | some (between, behind) =>
      (offer? (String.ofList behind)).map
        (OptionSpec.mk (String.ofList text) (String.ofList (unprotect false between)))

/-- The specifications in the arm of a command, up to the global flags; nothing if one of the words
is no specification. -/
def optionsIn : List (List String) → Option (List OptionSpec)
  | ["_arguments" :: words] =>
    if words.getLast? = some globalsValue then words.dropLast.mapM option? else none
  | _ => none

def body (topic : Topic) : List (List String) :=
  if topic.takesCommands then [["_describe", "-t", "commands", "command", "commands"]]
  else ["_arguments" :: (topic.spellings.map specification ++ [globalsValue])]

/-! ## 2. Lines -/

theorem reads_quoted_line (text : String) : Reads ["        " ++ quote text] [[text]] := by
  refine reads_line ?_
  rw [String.toList_append, List.append_assoc]
  exact (Takes.spaces (by decide)).append (Takes.last (spells_quote text))

theorem takes_options {indent : String} (blank : ∀ c ∈ indent.toList, c = ' ')
    (spellings : List Spelling) (words : List String) :
    Takes (sourceOf (spellings.map fun spelling => indent ++ optionWord spelling ++ " \\")) words
      (words ++ spellings.map specification) [] := by
  induction spellings generalizing words with
  | nil =>
    rw [List.map_nil, List.map_nil, List.append_nil]
    rfl
  | cons spelling spellings ih =>
    have chars : (indent ++ optionWord spelling ++ " \\").toList ++ ['\n'] =
        indent.toList ++ (((optionWord spelling).toList ++ [' ']) ++ ['\\', '\n']) := by
      simp only [String.toList_append, List.append_assoc]
      rfl
    have first : Takes (sourceOf [indent ++ optionWord spelling ++ " \\"]) words
        (words ++ [specification spelling]) [] := by
      rw [sourceOf_singleton, chars]
      exact (Takes.spaces blank).append
        ((Takes.word (spells_quote (specification spelling))).append Takes.joined)
    rw [List.map_cons, List.map_cons, ← List.singleton_append, sourceOf_append,
      List.append_cons words]
    exact first.append (ih _)

theorem reads_body {topic : Topic} (h : CleanTopic topic) :
    Reads (topicCase topic) (([topic.name ++ ")"] :: body topic) ++ [[";;"]]) := by
  have label : Reads ["                " ++ topic.name ++ ")"] [[topic.name ++ ")"]] :=
    Bash.reads_label_line (by decide) h.name.2
  have last : Reads ["                    ;;"] [[";;"]] := rfl
  have offered : Reads (topicBody topic) (body topic) := by
    unfold topicBody body
    split
    · rfl
    · have first : Takes (sourceOf ["                    _arguments \\"]) [] ["_arguments"] [] :=
        rfl
      have globals : Takes (sourceOf ["                        " ++ globalsWord])
          (["_arguments"] ++ topic.spellings.map specification) []
          [["_arguments"] ++ topic.spellings.map specification ++ [globalsValue]] := by
        have chars : ("                        " ++ globalsWord).toList ++ ['\n'] =
            "                        ".toList ++
              (('"' :: (globalsValue.toList ++ ['"'])) ++ ['\n']) := by decide
        rw [sourceOf_singleton, chars]
        exact (Takes.spaces (by decide)).append (Takes.last (spells_double (by decide)))
      unfold Reads
      rw [sourceOf_append, sourceOf_append]
      exact (first.append (takes_options (by decide) _ _)).append globals
  exact (label.append offered).append last

theorem turn_of_mem_body {topic : Topic} :
    ∀ line ∈ [topic.name ++ ")"] :: body topic, turn line = .stays := by
  refine List.forall_mem_cons.mpr ⟨turn_label, ?_⟩
  unfold body
  split <;> exact List.forall_mem_singleton.mpr rfl

theorem passes_front {c : Completion} (h : CleanModel c) (some : c.program ≠ "") :
    ∃ front, preamble c ++ c.globals.map (fun spelling => "        " ++ optionWord spelling)
        ++ ["    )", "", "    commands=("] ++ c.topics.map commandLine ++ switchOver =
          front ++ ["            case $words[1] in"] ∧
      Passes (caseOf commandWord) front := by
  have title : Passes (caseOf commandWord) ["#compdef " ++ c.program] := by
    have front : ∀ word ∈ ["#compdef"], Plain word := by decide
    refine .of_length (reads_words [] (List.forall_mem_nil _) front c.program
      (h.program.plainWord some) ?_) (by simp)
    rw [String.toList_append]
    rfl
  have opening : Passes (caseOf commandWord) [c.functionName ++ "() \x7b"] := by
    have function : ∀ word ∈ [c.functionName ++ "()"], Plain word :=
      List.forall_mem_singleton.mpr
        ((Bash.spelled_functionName h.program).plain_append (by decide) (by decide))
    refine .of_length
      (reads_words [] (List.forall_mem_nil _) function "\x7b" (by decide) ?_) (by simp)
    simp only [String.toList_append, List.append_assoc, List.flatMap_cons]
    rfl
  have quoted : ∀ text, Passes (caseOf commandWord) ["        " ++ quote text] :=
    fun text => .of_length (reads_quoted_line text) (by simp)
  have fixed : ∀ {block : List String}, passes (caseOf commandWord) block = true →
      Passes (caseOf commandWord) block := .of_passes
  have globals : Passes (caseOf commandWord)
      (c.globals.map fun spelling => "        " ++ optionWord spelling) :=
    .map fun spelling _ => quoted _
  have commands : Passes (caseOf commandWord) (c.topics.map commandLine) :=
    .map fun topic _ => quoted _
  have split : switchOver = switchOver.dropLast ++ ["            case $words[1] in"] := rfl
  have notes : passes (caseOf commandWord)
      ["# zsh completion. Generated by schemacli; do not edit.", ""] = true := by decide +kernel
  have locals : passes (caseOf commandWord)
      ["    local context state state_descr line", "    typeset -A opt_args",
        "    local -a commands global_opts", "", "    global_opts=("] = true := by decide +kernel
  have between : passes (caseOf commandWord) ["    )", "", "    commands=("] = true := by
    decide +kernel
  have switch : passes (caseOf commandWord) switchOver.dropLast = true := by decide +kernel
  refine ⟨_, (congrArg _ split).trans (List.append_assoc ..).symm, ?_⟩
  exact ((((title.append ((fixed notes).append (opening.append (fixed locals)))).append
    globals).append (fixed between)).append commands).append (fixed switch)

theorem reads_last {c : Completion} (h : CleanModel c) (some : c.program ≠ "") :
    Reads (epilogue c) [["*)"], ["_arguments", globalsValue], [";;"], ["esac"], [";;"], ["esac"],
      ["\x7d"], ["compdef", c.functionName, c.program]] := by
  have fixed : Reads ["                *)", "                    _arguments " ++ globalsWord,
        "                    ;;", "            esac", "            ;;", "    esac", "\x7d", ""]
      [["*)"], ["_arguments", globalsValue], [";;"], ["esac"], [";;"], ["esac"], ["\x7d"]] := by
    decide +kernel
  have name : c.functionName ≠ "" := by
    unfold Completion.functionName
    simp
  have front : ∀ word ∈ ["compdef", c.functionName], Plain word :=
    List.forall_mem_cons.mpr ⟨by decide,
      List.forall_mem_singleton.mpr ((Bash.spelled_functionName h.program).plainWord name)⟩
  have last : Reads ["compdef " ++ c.functionName ++ " " ++ c.program]
      [["compdef", c.functionName, c.program]] := by
    refine reads_words [] (List.forall_mem_nil _) front c.program (h.program.plainWord some) ?_
    simp only [String.toList_append, List.append_assoc, List.flatMap_cons]
    rfl
  exact fixed.append last

/-- The arms of the script for zsh are those of the commands, and one for all other words. -/
theorem armsOf_script {c : Completion} (h : CleanModel c) (some : c.program ≠ "") :
    ∃ read rest, linesIn (script c) = .some read ∧
      armsOf commandWord read =
        (c.topics.map fun topic => [topic.name ++ ")"] :: body topic) ++
          [["*" ++ ")"] :: rest] := by
  obtain ⟨front, split, before⟩ := passes_front h some
  have header : Reads ["            case $words[1] in"] [caseOf commandWord] := rfl
  have arms : Reads (c.topics.flatMap topicCase) (c.topics.flatMap fun topic =>
      ([topic.name ++ ")"] :: body topic) ++ [[";;"]]) :=
    .flatMap fun topic htopic => reads_body (h.topics topic htopic)
  have source : (script c).toList = sourceOf (lines c) :=
    Text.toList_join_append (by rw [lines, split]; simp)
  rw [lines, split] at source
  have last : caseOf commandWord ∉ [["*)"], ["_arguments", globalsValue], [";;"], ["esac"], [";;"],
      ["esac"], ["\x7d"], ["compdef", c.functionName, c.program]] := by
    simp [caseOf]
  have own : ∀ topic ∈ c.topics, Balanced ([topic.name ++ ")"] :: body topic) ∧
      caseOf commandWord ∉ [topic.name ++ ")"] :: body topic := by
    refine fun topic _ => ⟨balanced_of_stays turn_of_mem_body, fun inside => ?_⟩
    have turns := turn_of_mem_body _ inside
    cases turns
  obtain ⟨read, found, armed⟩ :=
    exists_armsOf source before header arms (reads_last h some) own last
  exact ⟨read, [["_arguments", globalsValue]], found, armed⟩

theorem offer?_action {offer : Offer}
    (offers : ∀ words, offer = .words words → words ≠ [] ∧ ∀ word ∈ words, Clean word) :
    offer? (action offer) = some (some offer) := by
  cases offer with
  | files => rfl
  | words words =>
    obtain ⟨nonempty, clean⟩ := offers words rfl
    have chars : (action (.words words)).toList =
        ":value:(".toList ++ ((Text.join " " words).toList ++ [')']) := by
      rw [action, String.toList_append, String.toList_append, List.append_assoc]
      rfl
    have listChars : (Text.join " " words ++ ")").toList = (Text.join " " words).toList ++ [')'] :=
      String.toList_append
    have some : action (.words words) ≠ "" := by
      intro none
      rw [none] at chars
      cases chars
    have other : action (.words words) ≠ ":path:_files" := by
      intro same
      rw [same] at chars
      cases chars
    have start : Text.dropStart? (action (.words words)) ":value:(" =
        .some (Text.join " " words ++ ")") := by
      rw [action, String.append_assoc]
      exact Text.dropStart?_append _ _
    have ends : Text.endsWith (Text.join " " words ++ ")") ")" = true := by
      rw [Text.endsWith, listChars]
      exact List.isSuffixOf_iff_suffix.mpr (List.suffix_append _ _)
    unfold offer?
    rw [if_neg some, if_neg other, start]
    dsimp only
    rw [if_pos ends, listChars, List.dropLast_concat, String.ofList_toList,
      Bash.split_join_of_fits nonempty fun word hword => (clean word hword).fits]

def specified (spelling : Spelling) : OptionSpec :=
  ⟨spelling.text, spelling.description, spelling.slot.map Slot.offer⟩

theorem option?_specification {spelling : Spelling} (spelled : Spelled spelling.text)
    (offers : ∀ slot, spelling.slot = some slot → ∀ words, slot.offer = .words words →
      words ≠ [] ∧ ∀ word ∈ words, Clean word) :
    option? (specification spelling) = some (specified spelling) := by
  have plain : ∀ c ∈ spelling.text.toList, c ≠ '[' ∧ c ≠ '\\' := by
    have apart : ∀ c, Bash.isLabelChar c = true → c ≠ '[' ∧ c ≠ '\\' :=
      Bash.forall_isLabelChar (by decide)
    exact fun c hc => apart c (spelled c hc)
  have opened := cutFree_append (fun mark => (plain _ mark).1 rfl)
    (fun mark => (plain _ mark).2 rfl)
    ((describe spelling.description).toList ++ ']' :: (behind spelling).toList)
  have offer : offer? (behind spelling) = some (spelling.slot.map Slot.offer) := by
    unfold behind
    cases slot : spelling.slot with
    | none => rfl
    | some slot' => exact offer?_action (offers slot' slot)
  unfold option?
  rw [toList_specification, opened]
  dsimp only
  rw [cutFree_closing]
  dsimp only
  rw [String.ofList_toList, String.ofList_toList, offer, toList_describe, unprotect_describe,
    String.ofList_toList]
  rfl

theorem optionsIn_body {topic : Topic} (h : CleanTopic topic) (own : topic.takesCommands = false)
    (slots : ∀ spelling ∈ topic.spellings, ∀ slot, spelling.slot = some slot → slot ∈ topic.slots) :
    optionsIn (body topic) = some (topic.spellings.map specified) := by
  have each : ∀ spelling ∈ topic.spellings,
      option? (specification spelling) = some (specified spelling) := by
    intro spelling hspelling
    refine option?_specification (h.words _ (List.mem_map_of_mem hspelling)).2 ?_
    exact fun slot found => h.offers slot (slots spelling hspelling slot found)
  unfold body
  rw [own, if_neg Bool.false_ne_true]
  simp only [optionsIn, List.getLast?_concat, if_true, List.dropLast_concat]
  exact mapM_map_eq_some each

end Toolsmith.Completion.Zsh
