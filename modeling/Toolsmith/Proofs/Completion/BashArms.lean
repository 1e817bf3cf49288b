import Toolsmith.Proofs.Completion.Bash
import Toolsmith.Proofs.Text.ShellCases
/-!
# The arms of the script for bash

The script is read as a shell reads it, into lines of words, and its case of the command into arms
(`armsOf_script`).  The arm of a command may hold a case of the previous word; each of its arms is
read back as a slot, with the spellings in its label and what its reply offers, and so are the slots
of the command regained (`slotsIn_body`).
-/

namespace Toolsmith.Completion.Bash

open ShellWords

/-! ## 1. Reading -/

def commandWord : String := "$\x7bcmd\x7d"

def previousWord : String := "$\x7bprev\x7d"

def offer? : List String → Option Offer
  | ["COMPREPLY=($(compgen", "-W", list, "--", "$\x7bcur\x7d))"] =>
    some (.words (Text.split ' ' list))
  | ["COMPREPLY=($(compgen", "-f", "--", "$\x7bcur\x7d))"] => some .files
  | _ => none

def slot? : List (List String) → Option Slot
  | [[first], statement, ["return", "0"]] =>
    match Text.cut? ')' first with
    | some (label, rest) =>
      if rest = "" then (offer? statement).map (Slot.mk (Text.split '|' label)) else none
    | none => none
  | _ => none

/-- The slots of the inner arms in the arm of a command; nothing if one of them is no slot. -/
def slotsIn (body : List (List String)) : Option (List Slot) :=
  (armsOf previousWord body).mapM slot?

def statement : Offer → List String
  | .words words =>
    ["COMPREPLY=($(compgen", "-W", Text.join " " words, "--", "$\x7bcur\x7d))"]
  | .files => ["COMPREPLY=($(compgen", "-f", "--", "$\x7bcur\x7d))"]

def slotArm (slot : Slot) : List (List String) :=
  [Text.join "|" slot.spellings ++ ")"] :: [statement slot.offer, ["return", "0"]]

def innerCase (slots : List Slot) : List (List String) :=
  if slots.isEmpty then []
  else caseOf previousWord :: (slots.flatMap (fun slot => slotArm slot ++ [[";;"]]) ++ [["esac"]])

/-- What the arm of a command has behind its label. -/
def body (topic : Topic) : List (List String) :=
  (if topic.takesCommands then [statement (.words [commandsVariable])]
    else innerCase topic.slots ++ [statement (.words (topic.words ++ [globalsVariable]))]) ++
    [["return", "0"]]

/-! ## 2. Lines -/

theorem plain_of_isLabelChar : ∀ c, isLabelChar c = true → isPlain c = true :=
  forall_isLabelChar (by decide)

theorem Spelled.plainWord {text : String} (spelled : Spelled text) (some : text ≠ "") :
    ShellWords.Plain text :=
  ⟨some, fun c hc => plain_of_isLabelChar c (spelled c hc)⟩

-- A name with a fixed part in front or behind is a plain word.
theorem Spelled.plain_append {text ending : String} (spelled : Spelled text)
    (some : ending ≠ "") (ends : ∀ c ∈ ending.toList, isPlain c = true) :
    ShellWords.Plain (text ++ ending) := by
  refine ⟨fun none => some (String.append_eq_empty_iff.mp none).2, ?_⟩
  rw [String.toList_append, List.forall_mem_append]
  exact ⟨fun c hc => plain_of_isLabelChar c (spelled c hc), ends⟩

section Lines

variable {indent : String} (blank : ∀ c ∈ indent.toList, c = ' ')
include blank

theorem reads_label_line {label : String} (spelled : Spelled label) :
    ShellWords.Reads [indent ++ label ++ ")"] [[label ++ ")"]] := by
  have plain : ShellWords.Plain (label ++ ")") := spelled.plain_append (by decide) (by decide)
  refine ShellWords.reads_words indent.toList blank (List.forall_mem_nil _) (label ++ ")") plain ?_
  rw [String.append_assoc, String.toList_append, List.append_assoc]
  rfl

theorem reads_words_statement {words : List String} (fits : ∀ word ∈ words, Fits word) :
    ShellWords.Reads [indent ++ reply (wordList words)] [statement (.words words)] := by
  have front : ∀ word ∈ ["COMPREPLY=($(compgen", "-W"], ShellWords.Plain word := by decide
  have dashes : ∀ word ∈ ["--"], ShellWords.Plain word := by decide
  have current : ShellWords.Spells (('"' :: ("$\x7bcur\x7d".toList ++ ['"'])) ++ "))".toList)
      "$\x7bcur\x7d))" :=
    (spells_double (by decide)).append (ShellWords.Plain.spells (by decide))
  have chars : (indent ++ reply (wordList words)).toList ++ ['\n'] =
      indent.toList ++
        (["COMPREPLY=($(compgen", "-W"].flatMap (fun word => word.toList ++ [' ']) ++
          ((('"' :: ((Text.join " " words).toList ++ ['"'])) ++ [' ']) ++
            (["--"].flatMap (fun word => word.toList ++ [' ']) ++
              ((('"' :: ("$\x7bcur\x7d".toList ++ ['"'])) ++ "))".toList) ++ ['\n'])))) := by
    unfold reply wordList
    simp only [String.toList_append, List.append_assoc, List.cons_append]
    rfl
  refine reads_line ?_
  rw [chars]
  exact (Takes.spaces blank).append ((Takes.plainWords front).append
    ((Takes.word (spells_double (quote_not_mem_join fits))).append
      ((Takes.plainWords dashes).append (Takes.last current))))

end Lines

theorem reads_slotArm {slot : Slot} (spelled : ∀ spelling ∈ slot.spellings, Spelled spelling)
    (offers : ∀ words, slot.offer = .words words → words ≠ [] ∧ ∀ word ∈ words, Clean word) :
    ShellWords.Reads (slotCase slot) (slotArm slot ++ [[";;"]]) := by
  have label : ShellWords.Reads ["                " ++ Text.join "|" slot.spellings ++ ")"]
      [[Text.join "|" slot.spellings ++ ")"]] := reads_label_line (by decide) (spelled_bars spelled)
  have offered : ShellWords.Reads ["                    " ++ reply (offerSource slot.offer)]
      [statement slot.offer] := by
    cases offer : slot.offer with
    | files => rfl
    | words words =>
      exact reads_words_statement (by decide) fun word hword =>
        ((offers words offer).2 word hword).fits
  have last : ShellWords.Reads ["                    return 0", "                    ;;"]
      [["return", "0"], [";;"]] := rfl
  exact label.append (offered.append last)

theorem CleanTopic.reads_innerCase {topic : Topic} (h : CleanTopic topic) :
    ShellWords.Reads (slotCases topic.slots) (innerCase topic.slots) := by
  have first : ShellWords.Reads ["            case \"$\x7bprev\x7d\" in"]
      [caseOf previousWord] := rfl
  have last : ShellWords.Reads ["            esac"] [["esac"]] := rfl
  have arms : ShellWords.Reads (topic.slots.flatMap slotCase)
      (topic.slots.flatMap fun slot => slotArm slot ++ [[";;"]]) :=
    .flatMap fun slot hslot => reads_slotArm (h.spellings slot hslot) (h.offers slot hslot)
  unfold slotCases innerCase
  split
  · rfl
  · exact (first.append arms).append last

theorem CleanTopic.reads_body {topic : Topic} (h : CleanTopic topic) :
    ShellWords.Reads (topicCase topic)
      ((([topic.name ++ ")"] :: body topic)) ++ [[";;"]]) := by
  have label : ShellWords.Reads ["        " ++ topic.name ++ ")"] [[topic.name ++ ")"]] :=
    reads_label_line (by decide) h.name.2
  have last : ShellWords.Reads ["            return 0", "            ;;"]
      [["return", "0"], [";;"]] := rfl
  have offered : ShellWords.Reads (topicBody topic)
      (if topic.takesCommands then [statement (.words [commandsVariable])]
        else innerCase topic.slots ++
          [statement (.words (topic.words ++ [globalsVariable]))]) := by
    unfold topicBody
    split
    · exact reads_words_statement (by decide) (List.forall_mem_singleton.mpr fits_commandsVariable)
    · have fits : ∀ word ∈ topic.words ++ [globalsVariable], Fits word := by
        refine List.forall_mem_append.mpr ⟨?_, List.forall_mem_singleton.mpr fits_globalsVariable⟩
        intro word hword
        obtain ⟨some, spelled⟩ := h.words word hword
        exact (spelled.clean some).fits
      exact h.reads_innerCase.append (reads_words_statement (by decide) fits)
  have all := label.append (offered.append last)
  unfold body
  rw [List.cons_append, List.append_assoc]
  unfold topicCase
  rw [List.append_assoc]
  exact all

@[simp] theorem turn_statement (offer : Offer) : turn (statement offer) = .stays := by
  cases offer <;> rfl

theorem turn_of_mem_slotArm {slot : Slot} : ∀ line ∈ slotArm slot, turn line = .stays :=
  List.forall_mem_cons.mpr
    ⟨turn_label, List.forall_mem_cons.mpr ⟨turn_statement _, List.forall_mem_singleton.mpr rfl⟩⟩

theorem turn_of_mem_slotArms {slots : List Slot} :
    ∀ line ∈ slots.flatMap (fun slot => slotArm slot ++ [[";;"]]),
      turn line = .stays ∨ turn line = .ends := by
  intro line hline
  obtain ⟨slot, -, hline⟩ := List.mem_flatMap.mp hline
  rcases List.mem_append.mp hline with inside | last
  · exact .inl (turn_of_mem_slotArm line inside)
  · rw [List.mem_singleton.mp last]
    exact .inr rfl

theorem balanced_innerCase (slots : List Slot) : Balanced (innerCase slots) := by
  unfold innerCase
  split
  · exact balanced_of_stays (List.forall_mem_nil _)
  · exact balanced_case rfl turn_of_mem_slotArms

theorem balanced_body (topic : Topic) : Balanced ([topic.name ++ ")"] :: body topic) := by
  have label : Balanced [[topic.name ++ ")"]] :=
    balanced_of_stays (List.forall_mem_singleton.mpr turn_label)
  have one : ∀ offer, Balanced [statement offer] :=
    fun offer => balanced_of_stays (List.forall_mem_singleton.mpr (turn_statement offer))
  have last : Balanced [["return", "0"]] :=
    balanced_of_stays (List.forall_mem_singleton.mpr rfl)
  refine label.append (Balanced.append ?_ last)
  split
  · exact one _
  · exact (balanced_innerCase _).append (one _)

-- The only case that begins inside the arm of a command is the one of the previous word.
theorem eq_caseOf_of_mem_body {topic : Topic} {line : List String}
    (hline : line ∈ [topic.name ++ ")"] :: body topic) (opens : turn line = .opens) :
    line = caseOf previousWord := by
  have stays : ∀ {line : List String}, turn line = .stays → turn line = .opens → False := by
    intro line stays opens
    rw [stays] at opens
    cases opens
  have inner : line ∈ innerCase topic.slots → line = caseOf previousWord := by
    unfold innerCase
    split
    · exact fun hline => absurd hline List.not_mem_nil
    · simp only [List.mem_cons, List.mem_append, List.not_mem_nil, or_false]
      rintro (first | arms | rfl)
      · exact first
      · rcases turn_of_mem_slotArms line arms with same | same
        · exact (stays same opens).elim
        · rw [same] at opens
          cases opens
      · cases opens
  rcases List.mem_cons.mp hline with rfl | hline
  · exact (stays turn_label opens).elim
  rcases List.mem_append.mp hline with hline | last
  · split at hline
    · obtain rfl := List.mem_singleton.mp hline
      exact (stays (turn_statement _) opens).elim
    · rcases List.mem_append.mp hline with hline | offered
      · exact inner hline
      · obtain rfl := List.mem_singleton.mp offered
        exact (stays (turn_statement _) opens).elim
  · obtain rfl := List.mem_singleton.mp last
    cases opens

theorem caseOf_not_mem_body (topic : Topic) :
    caseOf commandWord ∉ [topic.name ++ ")"] :: body topic := by
  intro inside
  have : caseOf commandWord = caseOf previousWord := eq_caseOf_of_mem_body inside rfl
  revert this
  decide

theorem reads_variable_line {opening : String} (name : String) {words : List String}
    (chars : opening.toList = "    local ".toList ++ (name.toList ++ ['"']))
    (plain : ShellWords.Plain name) (fits : ∀ word ∈ words, Fits word) :
    ShellWords.Reads [opening ++ Text.join " " words ++ "\""]
      [["local", name ++ Text.join " " words]] := by
  have front : ∀ word ∈ ["local"], ShellWords.Plain word := by decide
  have lineChars : (opening ++ Text.join " " words ++ "\"").toList ++ ['\n'] =
      [' ', ' ', ' ', ' '] ++ (["local"].flatMap (fun word => word.toList ++ [' ']) ++
        ((name.toList ++ ('"' :: ((Text.join " " words).toList ++ ['"']))) ++ ['\n'])) := by
    rw [String.toList_append, String.toList_append, chars]
    simp only [List.append_assoc, List.cons_append]
    rfl
  refine reads_line ?_
  rw [lineChars]
  exact (Takes.spaces (by decide)).append ((Takes.plainWords front).append
    (Takes.last (plain.spells.append (spells_double (quote_not_mem_join fits)))))

theorem CleanModel.passes_preamble {c : Completion} (h : CleanModel c) :
    ∃ front, preamble c = front ++ ["    case \"$\x7bcmd\x7d\" in"] ∧
      Passes (caseOf commandWord) front := by
  have title : Passes (caseOf commandWord) ["# bash completion for " ++ c.program ++
      ". Generated by schemacli; do not edit."] := by
    have begun : ∀ word ∈ ["#", "bash", "completion", "for"], ShellWords.Plain word := by decide
    have ended : ∀ word ∈ ["Generated", "by", "schemacli;", "do", "not"],
        ShellWords.Plain word := by decide
    have program : ShellWords.Plain (c.program ++ ".") :=
      h.program.plain_append (by decide) (by decide)
    have front : ∀ word ∈ ["#", "bash", "completion", "for"] ++ (c.program ++ ".") ::
        ["Generated", "by", "schemacli;", "do", "not"], ShellWords.Plain word :=
      List.forall_mem_append.mpr ⟨begun, List.forall_mem_cons.mpr ⟨program, ended⟩⟩
    refine .of_length
      (ShellWords.reads_words [] (List.forall_mem_nil _) front "edit." (by decide) ?_) (by simp)
    simp only [String.toList_append, List.append_assoc, List.flatMap_append, List.flatMap_cons]
    rfl
  have opening : Passes (caseOf commandWord) [c.functionName ++ "_completions() \x7b"] := by
    have function : ∀ word ∈ [c.functionName ++ "_completions()"], ShellWords.Plain word :=
      List.forall_mem_singleton.mpr
        ((spelled_functionName h.program).plain_append (by decide) (by decide))
    refine .of_length
      (ShellWords.reads_words [] (List.forall_mem_nil _) function "\x7b" (by decide) ?_) (by simp)
    simp only [String.toList_append, List.append_assoc, List.flatMap_cons]
    rfl
  have commands : Passes (caseOf commandWord)
      ["    local commands=\"" ++ Text.join " " c.names ++ "\""] :=
    .of_length (reads_variable_line "commands=" rfl (by decide)
      fun word hword => (h.names.2 word hword).fits) (by simp)
  have globals : Passes (caseOf commandWord)
      ["    local global_flags=\"" ++ Text.join " " c.globalWords ++ "\""] :=
    .of_length (reads_variable_line "global_flags=" rfl (by decide)
      fun word hword => (h.globals.2 word hword).2.fits) (by simp)
  have blank : Passes (caseOf commandWord) [""] := .of_passes (by decide +kernel)
  have words : Passes (caseOf commandWord) findWords := .of_passes (by decide +kernel)
  have first : Passes (caseOf commandWord) ["", "    if [[ $\x7bcword\x7d -eq 1 ]]; then",
      "        " ++ reply (wordList [commandsVariable, globalsVariable]), "        return 0",
      "    fi", ""] := .of_passes (by decide +kernel)
  have command : Passes (caseOf commandWord) findCommand := .of_passes (by decide +kernel)
  refine ⟨_, rfl, ?_⟩
  exact (((title.append (blank.append opening)).append words).append
    ((commands.append globals).append first)).append command

theorem CleanModel.reads_last {c : Completion} (h : CleanModel c) (some : c.program ≠ "") :
    ShellWords.Reads (epilogue c) [["*)"], statement (.words [globalsVariable]), ["return", "0"],
      [";;"], ["esac"], ["\x7d"],
      ["complete", "-F", c.functionName ++ "_completions", c.program]] := by
  have other : ShellWords.Reads ["        *)"] [["*)"]] := rfl
  have offered : ShellWords.Reads ["            " ++ reply (wordList [globalsVariable])]
      [statement (.words [globalsVariable])] :=
    reads_words_statement (by decide) (List.forall_mem_singleton.mpr fits_globalsVariable)
  have closing : ShellWords.Reads ["            return 0", "            ;;", "    esac", "\x7d", ""]
      [["return", "0"], [";;"], ["esac"], ["\x7d"]] := rfl
  have front : ∀ word ∈ ["complete", "-F", c.functionName ++ "_completions"],
      ShellWords.Plain word := by
    have fixed : ∀ word ∈ ["complete", "-F"], ShellWords.Plain word := by decide
    have function : ShellWords.Plain (c.functionName ++ "_completions") :=
      (spelled_functionName h.program).plain_append (by decide) (by decide)
    exact List.forall_mem_append.mpr ⟨fixed, List.forall_mem_singleton.mpr function⟩
  have last : ShellWords.Reads ["complete -F " ++ c.functionName ++ "_completions " ++ c.program]
      [["complete", "-F", c.functionName ++ "_completions", c.program]] := by
    refine ShellWords.reads_words [] (List.forall_mem_nil _) front c.program
      (h.program.plainWord some) ?_
    simp only [String.toList_append, List.append_assoc, List.flatMap_cons]
    rfl
  exact (other.append (offered.append closing)).append last

/-- The arms of the script for bash are those of the commands, and one for all other words. -/
theorem CleanModel.armsOf_script {c : Completion} (h : CleanModel c) (some : c.program ≠ "") :
    ∃ read rest, linesIn (script c) = .some read ∧
      armsOf commandWord read =
        (c.topics.map fun topic => [topic.name ++ ")"] :: body topic) ++
          [["*" ++ ")"] :: rest] := by
  obtain ⟨front, split, before⟩ := h.passes_preamble
  have header : ShellWords.Reads ["    case \"$\x7bcmd\x7d\" in"] [caseOf commandWord] := rfl
  have arms : ShellWords.Reads (topicCases c.topics) (c.topics.flatMap fun topic =>
      ([topic.name ++ ")"] :: body topic) ++ [[";;"]]) := by
    have known : c.topics.isEmpty = false := List.isEmpty_eq_false_iff.mpr h.known
    unfold topicCases
    rw [known, if_neg Bool.false_ne_true]
    exact .flatMap fun topic htopic => (h.topics topic htopic).reads_body
  have source : (script c).toList = sourceOf (lines c) :=
    Text.toList_join_append (by rw [lines, split]; simp)
  rw [lines, split] at source
  have last : caseOf commandWord ∉ [["*)"], statement (.words [globalsVariable]), ["return", "0"],
      [";;"], ["esac"], ["\x7d"],
      ["complete", "-F", c.functionName ++ "_completions", c.program]] := by
    simp [caseOf, statement]
  have own : ∀ topic ∈ c.topics, Balanced ([topic.name ++ ")"] :: body topic) ∧
      caseOf commandWord ∉ [topic.name ++ ")"] :: body topic :=
    fun topic _ => ⟨balanced_body topic, caseOf_not_mem_body topic⟩
  obtain ⟨read, found, armed⟩ :=
    exists_armsOf source before header arms (h.reads_last some) own last
  exact ⟨read, [statement (.words [globalsVariable]), ["return", "0"]], found, armed⟩

/-- A slot that can be read back: what separates its spellings is in none of them, and so with its
words. -/
structure Readable (slot : Slot) : Prop where
  some : slot.spellings ≠ []
  spelled : ∀ spelling ∈ slot.spellings, Spelled spelling ∧ '|' ∉ spelling.toList
  offers : ∀ words, slot.offer = .words words → words ≠ [] ∧ ∀ word ∈ words, Clean word

theorem Readable.slot?_slotArm {slot : Slot} (h : Readable slot) :
    slot? (slotArm slot) = .some slot := by
  have spelled : Spelled (Text.join "|" slot.spellings) :=
    spelled_bars fun spelling hspelling => (h.spelled spelling hspelling).1
  have unclosed : ')' ∉ (Text.join "|" slot.spellings).toList :=
    fun close => (spelled.plain _ close).2.2 rfl
  have cut : Text.cut? ')' (Text.join "|" slot.spellings ++ ")") =
      .some (Text.join "|" slot.spellings, "") := by
    have chars : (Text.join "|" slot.spellings ++ ")").toList =
        (Text.join "|" slot.spellings).toList ++ ')' :: [] := String.toList_append
    unfold Text.cut?
    rw [chars, Text.cutChars_append unclosed, Option.map_some, String.ofList_toList]
  have label : Text.split '|' (Text.join "|" slot.spellings) = slot.spellings :=
    Text.split_join h.some fun spelling hspelling => (h.spelled spelling hspelling).2
  have offer : offer? (statement slot.offer) = .some slot.offer := by
    cases offer : slot.offer with
    | files => rfl
    | words words =>
      obtain ⟨some, clean⟩ := h.offers words offer
      show Option.some (Offer.words (Text.split ' ' (Text.join " " words))) = _
      rw [split_join_of_fits some fun word hword => (clean word hword).fits]
  simp only [slot?, slotArm, cut, if_true, offer, label, Option.map_some]

theorem slotsIn_body {topic : Topic} (own : topic.takesCommands = false)
    (readable : ∀ slot ∈ topic.slots, Readable slot) :
    slotsIn (body topic) = .some topic.slots := by
  let offered := [statement (.words (topic.words ++ [globalsVariable])), ["return", "0"]]
  have last : caseOf previousWord ∉ offered := by
    simp [offered, caseOf, statement]
  have arms : armsOf previousWord (body topic) = topic.slots.map slotArm := by
    unfold body innerCase
    rw [own, if_neg Bool.false_ne_true]
    by_cases none : topic.slots.isEmpty = true
    · rw [if_pos none, List.isEmpty_iff.mp none]
      exact armsOf_eq_nil last
    · have closed : caseOf previousWord ∉ ["esac"] :: offered :=
        List.not_mem_cons_of_ne_of_not_mem (by decide) last
      have own : ∀ slot ∈ topic.slots, Balanced (slotArm slot) ∧
          caseOf previousWord ∉ slotArm slot := by
        refine fun slot _ => ⟨balanced_of_stays turn_of_mem_slotArm, fun inside => ?_⟩
        have turns := turn_of_mem_slotArm _ inside
        cases turns
      have nothing : caseOf previousWord ∉ ([] : List (List String)) := List.not_mem_nil
      have once := armsOf_once nothing own closed
      rw [if_neg none, List.append_assoc, List.cons_append, List.append_assoc]
      exact once.trans (List.append_nil _)
  rw [slotsIn, arms, mapM_map_eq_some fun slot hslot => (readable slot hslot).slot?_slotArm,
    List.map_id']

end Toolsmith.Completion.Bash
