import Mathlib.Data.List.TakeWhile
import Toolsmith.Completion.Bash
import Toolsmith.Proofs.Completion.Model
import Toolsmith.Proofs.Flag.ValueType
import Toolsmith.Proofs.Text.Lines
/-!
# The words of the script for bash

The script is read back as text: the lists of words between double quotes, cut at the spaces, and
the labels of its cases.  What is read are the words and the labels of the model, in their order, if
no word has a character that ends it or the list (`reads_lines`).  The checks of the compiler keep
such characters out of every name, short name and choice, so that this holds whatever the schemas
are (`script_compileAll`).
-/

namespace Toolsmith.Completion.Bash

open Completion

/-! ## 1. Reading a script -/

/-- What stands before the opening quote of a list of words. -/
def listMarks : List String := ["-W ", "local commands=", "local global_flags="]

/-- The list in a line of a script: what stands between the first two double quotes behind a mark,
cut at the spaces. -/
def list? (line : String) : Option (List String) :=
  match Text.cut? '"' line with
  | some (front, rest) =>
    if listMarks.any fun mark => Text.endsWith front mark then
      (Text.cut? '"' rest).map fun parts => Text.split ' ' parts.1
    else none
  | none => none

/-- The label of a case, without the spaces in front of it.  A line with a label has no opening
parenthesis, and a closing one only at its end. -/
def label? (line : String) : Option String :=
  if '(' ∈ line.toList then none
  else
    match Text.cut? ')' line with
    | some (label, rest) =>
      if rest = "" then some (String.ofList (label.toList.dropWhile (· = ' '))) else none
    | none => none

def listsIn (script : String) : List (List String) := (Text.split '\n' script).filterMap list?

def labelsIn (script : String) : List String := (Text.split '\n' script).filterMap label?

/-- A word that is one word between double quotes, whatever stands beside it: it is not empty and
has no blank, no quote, no backslash, no backtick and no dollar sign. -/
def Clean (word : String) : Prop :=
  word ≠ "" ∧ ∀ c ∈ word.toList, Text.isBlank c = false ∧
    c ≠ '"' ∧ c ≠ '\'' ∧ c ≠ '\\' ∧ c ≠ '\x60' ∧ c ≠ '$'

def Offer.words? : Offer → Option (List String)
  | .words words => some words
  | .files => none

/-- The words that a command has in lists: the spellings of its flags and their choices. -/
def topicWords (topic : Topic) : List String :=
  topic.words ++ (topic.slots.filterMap fun slot => Offer.words? slot.offer).flatten

/-- The words of the lists in a script, the two variables aside. -/
def offeredWords (c : Completion) : List String :=
  c.names ++ c.globalWords ++ c.topics.flatMap topicWords

def topicLists (topic : Topic) : List (List String) :=
  if topic.takesCommands then [[commandsVariable]]
  else
    topic.slots.filterMap (fun slot => Offer.words? slot.offer) ++
      [topic.words ++ [globalsVariable]]

def topicLabels (topic : Topic) : List String :=
  topic.name :: if topic.takesCommands then []
    else topic.slots.map fun slot => Text.join "|" slot.spellings

/-! ## 2. Characters -/

/-- A character of a label: one of a name, or the bar between two spellings. -/
def isLabelChar (c : Char) : Bool := Check.isNameChar c || c == '|'

theorem toNat_lt_of_isLabelChar {c : Char} (h : isLabelChar c = true) : c.toNat < 128 := by
  change (((((decide (c.val ≥ 65 ∧ c.val ≤ 90) || (c.val ≥ 97 && c.val ≤ 122)) ||
    (c.val ≥ 48 && c.val ≤ 57)) || c == '_') || c == '-') || c == '|') = true at h
  simp only [Bool.or_eq_true, Bool.and_eq_true, decide_eq_true_eq, beq_iff_eq,
    UInt32.le_iff_toNat_le, ge_iff_le] at h
  change ((((65 ≤ c.toNat ∧ c.toNat ≤ 90 ∨ 97 ≤ c.toNat ∧ c.toNat ≤ 122) ∨
    48 ≤ c.toNat ∧ c.toNat ≤ 57) ∨ c = '_') ∨ c = '-') ∨ c = '|' at h
  rcases h with ((((upper | lower) | digit) | rfl) | rfl) | rfl
  · omega
  · omega
  · omega
  all_goals decide

-- What holds of every character of ASCII that is one of labels holds of all of them.
theorem forall_isLabelChar {p : Char → Prop}
    (ascii : ∀ n < 128, isLabelChar (Char.ofNat n) = true → p (Char.ofNat n)) :
    ∀ c, isLabelChar c = true → p c := by
  intro c h
  have at_c := ascii c.toNat (toNat_lt_of_isLabelChar h)
  rw [Char.ofNat_toNat] at at_c
  exact at_c h

theorem clean_of_isLabelChar : ∀ c, isLabelChar c = true → Text.isBlank c = false ∧
    c ≠ '"' ∧ c ≠ '\'' ∧ c ≠ '\\' ∧ c ≠ '\x60' ∧ c ≠ '$' :=
  forall_isLabelChar (by decide)

theorem fits_of_isLabelChar : ∀ c, isLabelChar c = true →
    (c ≠ ' ' ∧ c ≠ '"' ∧ c ≠ '\n') ∧ c ≠ '(' ∧ c ≠ ')' :=
  forall_isLabelChar (by decide)

/-! ## 3. Lines -/

/-- A word that ends neither its line nor its list, nor is two words. -/
def Fits (word : String) : Prop := ∀ c ∈ word.toList, c ≠ ' ' ∧ c ≠ '"' ∧ c ≠ '\n'

theorem quote_not_mem_join {words : List String} (fits : ∀ word ∈ words, Fits word) :
    '"' ∉ (Text.join " " words).toList := by
  have apart : ∀ c ∈ (Text.join " " words).toList, c ≠ '"' :=
    Text.forall_mem_join (by decide) fun word hword c hc => (fits word hword c hc).2.1
  exact fun quote => apart _ quote rfl

theorem split_join_of_fits {words : List String} (nonempty : words ≠ [])
    (fits : ∀ word ∈ words, Fits word) : Text.split ' ' (Text.join " " words) = words :=
  Text.split_join nonempty fun word hword space => (fits word hword ' ' space).1 rfl

section Line

variable {line : String}

theorem list?_eq_none (unquoted : '"' ∉ line.toList) : list? line = none := by
  unfold list? Text.cut?
  rw [Text.cutChars_eq_none unquoted]
  rfl

theorem label?_eq_none (unclosed : ')' ∉ line.toList) : label? line = none := by
  unfold label? Text.cut?
  rw [Text.cutChars_eq_none unclosed]
  exact ite_self none

theorem list?_eq_some {front rest : List Char} {mark : String} {words : List String}
    (chars : line.toList =
      front ++ mark.toList ++ '"' :: ((Text.join " " words).toList ++ '"' :: rest))
    (hmark : mark ∈ listMarks) (unquoted : '"' ∉ front ++ mark.toList) (nonempty : words ≠ [])
    (fits : ∀ word ∈ words, Fits word) : list? line = some words := by
  have marked : (listMarks.any fun mark' =>
      Text.endsWith (String.ofList (front ++ mark.toList)) mark') = true := by
    refine List.any_eq_true.mpr ⟨mark, hmark, ?_⟩
    rw [Text.endsWith, String.toList_ofList]
    exact List.isSuffixOf_iff_suffix.mpr (List.suffix_append _ _)
  unfold list? Text.cut?
  rw [chars, Text.cutChars_append unquoted]
  dsimp only [Option.map_some]
  rw [if_pos marked, String.toList_ofList, Text.cutChars_append (quote_not_mem_join fits)]
  simp only [Option.map_some, String.ofList_toList, split_join_of_fits nonempty fits]

theorem label?_eq_some {spaces : List Char} {label : String}
    (chars : line.toList = spaces ++ label.toList ++ [')']) (blank : ∀ c ∈ spaces, c = ' ')
    (hlabel : ∀ c ∈ label.toList, isLabelChar c = true) : label? line = some label := by
  have apart := fun c hc => fits_of_isLabelChar c (hlabel c hc)
  have none_of : ∀ c ∈ spaces ++ label.toList, c ≠ '(' ∧ c ≠ ')' := by
    intro c hc
    rcases List.mem_append.mp hc with space | hc
    · rw [blank c space]
      decide
    · exact (apart c hc).2
  have opened : '(' ∉ line.toList := by
    rw [chars, List.mem_append]
    rintro (inside | last)
    · exact (none_of _ inside).1 rfl
    · revert last
      decide
  have bare : (spaces ++ label.toList).dropWhile (· = ' ') = label.toList := by
    rw [List.dropWhile_append_of_pos fun c hc => decide_eq_true (blank c hc),
      List.dropWhile_eq_self_iff]
    intro some first
    exact (apart _ (List.getElem_mem some)).1.1 (of_decide_eq_true first)
  unfold label? Text.cut?
  rw [if_neg opened, chars, Text.cutChars_append fun close => (none_of _ close).2 rfl]
  show some (String.ofList ((String.ofList (spaces ++ label.toList)).toList.dropWhile _)) = _
  rw [String.toList_ofList, bare, String.ofList_toList]

end Line

/-! ## 4. Blocks of lines -/

/-- What the lines of a block are read as: none of them is broken, and the lists and labels in them
are these. -/
structure Reads (block : List String) (lists : List (List String)) (labels : List String) :
    Prop where
  whole : ∀ line ∈ block, '\n' ∉ line.toList
  lists : block.filterMap list? = lists
  labels : block.filterMap label? = labels

section Blocks

variable {block block' : List String} {lists lists' : List (List String)}
  {labels labels' : List String}

theorem Reads.nil : Reads [] [] [] := ⟨List.forall_mem_nil _, rfl, rfl⟩

theorem Reads.append (first : Reads block lists labels) (second : Reads block' lists' labels') :
    Reads (block ++ block') (lists ++ lists') (labels ++ labels') where
  whole := List.forall_mem_append.mpr ⟨first.whole, second.whole⟩
  lists := by rw [List.filterMap_append, first.lists, second.lists]
  labels := by rw [List.filterMap_append, first.labels, second.labels]

theorem Reads.flatMap {α : Type} {items : List α} {block : α → List String}
    {lists : α → List (List String)} {labels : α → List String}
    (each : ∀ item ∈ items, Reads (block item) (lists item) (labels item)) :
    Reads (items.flatMap block) (items.flatMap lists) (items.flatMap labels) where
  whole := by
    intro line hline
    obtain ⟨item, hitem, hline⟩ := List.mem_flatMap.mp hline
    exact (each item hitem).whole line hline
  lists := by
    rw [List.filterMap_flatMap]
    exact List.flatMap_congr fun item hitem => (each item hitem).lists
  labels := by
    rw [List.filterMap_flatMap]
    exact List.flatMap_congr fun item hitem => (each item hitem).labels

theorem Reads.line {line : String} (whole : '\n' ∉ line.toList) :
    Reads [line] (list? line).toList (label? line).toList where
  whole := by
    intro _ hline
    rw [List.mem_singleton.mp hline]
    exact whole
  lists := by cases found : list? line <;> simp [found]
  labels := by cases found : label? line <;> simp [found]

theorem Reads.silent {line : String} (whole : '\n' ∉ line.toList) (unquoted : '"' ∉ line.toList)
    (label : label? line = none) : Reads [line] [] [] := by
  have read := Reads.line whole
  rw [list?_eq_none unquoted, label] at read
  exact read

-- Enough for a line to have neither list nor label, and soon checked: no mark has another ending.
def silentChars (chars : List Char) : Bool :=
  !chars.contains '\n' && (chars.contains '(' || !chars.contains ')') &&
    (Text.cutChars '"' chars).all fun parts =>
      !([[' ', 'W'], ['=', 's']].contains (parts.1.reverse.take 2))

theorem take_two_of_endsWith {front : List Char} {mark : String} (hmark : mark ∈ listMarks)
    (marked : Text.endsWith (String.ofList front) mark = true) :
    front.reverse.take 2 = [' ', 'W'] ∨ front.reverse.take 2 = ['=', 's'] := by
  rw [Text.endsWith, String.toList_ofList, List.isSuffixOf_iff_suffix] at marked
  obtain ⟨start, rfl⟩ := marked
  simp only [listMarks, List.mem_cons, List.not_mem_nil, or_false] at hmark
  rcases hmark with rfl | rfl | rfl
  · exact .inl (by simp)
  · exact .inr (by simp)
  · exact .inr (by simp)

theorem Reads.fixed {chars : List Char} (silent : silentChars chars = true)
    (others : Reads block lists labels) : Reads (String.ofList chars :: block) lists labels := by
  simp only [silentChars, Bool.and_eq_true, Bool.or_eq_true, Bool.not_eq_true',
    List.contains_eq_mem, decide_eq_true_eq, decide_eq_false_iff_not] at silent
  obtain ⟨⟨whole, bracket⟩, unmarked⟩ := silent
  have list : list? (String.ofList chars) = none := by
    unfold list? Text.cut?
    rw [String.toList_ofList]
    cases cut : Text.cutChars '"' chars with
    | none => rfl
    | some parts =>
      rw [cut] at unmarked
      refine if_neg ?_
      intro marked
      obtain ⟨mark, hmark, ends⟩ := List.any_eq_true.mp marked
      revert unmarked
      rcases take_two_of_endsWith hmark ends with last | last <;> simp [last]
  have label : label? (String.ofList chars) = none := by
    rcases bracket with opened | unclosed
    · exact if_pos (String.toList_ofList ▸ opened)
    · exact label?_eq_none (String.toList_ofList ▸ unclosed)
  have line : Reads [String.ofList chars] (list? (String.ofList chars)).toList
      (label? (String.ofList chars)).toList := .line (String.toList_ofList ▸ whole)
  rw [list, label] at line
  exact line.append others

theorem Reads.plain {line : String}
    (plain : ∀ c ∈ line.toList, c ≠ '\n' ∧ c ≠ '"' ∧ c ≠ ')') : Reads [line] [] [] :=
  .silent (fun feed => (plain _ feed).1 rfl) (fun quote => (plain _ quote).2.1 rfl)
    (label?_eq_none fun close => (plain _ close).2.2 rfl)

theorem Reads.words {line : String} {front rest : List Char} {mark : String} {words : List String}
    (chars : line.toList =
      front ++ mark.toList ++ '"' :: ((Text.join " " words).toList ++ '"' :: rest))
    (hmark : mark ∈ listMarks) (before : ∀ c ∈ front ++ mark.toList, c ≠ '"' ∧ c ≠ '\n')
    (behind : '\n' ∉ rest) (nonempty : words ≠ []) (fits : ∀ word ∈ words, Fits word)
    (label : label? line = none) : Reads [line] [words] [] := by
  have inside : ∀ c ∈ (Text.join " " words).toList, c ≠ '\n' :=
    Text.forall_mem_join (by decide) fun word hword c hc => (fits word hword c hc).2.2
  have whole : ∀ c ∈ line.toList, c ≠ '\n' := by
    rw [chars]
    refine List.forall_mem_append.mpr ⟨fun c hc => (before c hc).2, ?_⟩
    refine List.forall_mem_cons.mpr ⟨by decide, List.forall_mem_append.mpr ⟨inside, ?_⟩⟩
    refine List.forall_mem_cons.mpr ⟨by decide, ?_⟩
    rintro _ hc rfl
    exact behind hc
  have read := Reads.line fun feed => whole _ feed rfl
  rw [list?_eq_some chars hmark (fun quote => (before _ quote).1 rfl) nonempty fits, label] at read
  exact read

theorem reads_reply {indent : String} (spaces : ∀ c ∈ indent.toList, c = ' ') {words : List String}
    (nonempty : words ≠ []) (fits : ∀ word ∈ words, Fits word) :
    Reads [indent ++ reply (wordList words)] [words] [] := by
  have opening : "-W \"".toList = "-W ".toList ++ ['"'] := rfl
  have closing : "\"".toList = ['"'] := rfl
  have chars : (indent ++ reply (wordList words)).toList =
      indent.toList ++ "COMPREPLY=($(compgen ".toList ++ "-W ".toList ++
        '"' :: ((Text.join " " words).toList ++ '"' :: " -- \"$\x7bcur\x7d\"))".toList) := by
    unfold reply wordList
    rw [String.toList_append, String.toList_append, String.toList_append, String.toList_append,
      String.toList_append, opening, closing]
    simp only [List.append_assoc, List.cons_append, List.nil_append]
  have before : ∀ c ∈ indent.toList ++ "COMPREPLY=($(compgen ".toList ++ "-W ".toList,
      c ≠ '"' ∧ c ≠ '\n' := by
    rw [List.append_assoc, List.forall_mem_append]
    refine ⟨?_, by decide⟩
    intro c hc
    rw [spaces c hc]
    decide
  have opened : label? (indent ++ reply (wordList words)) = none := by
    refine if_pos ?_
    rw [chars, List.append_assoc, List.append_assoc]
    exact List.mem_append_right _ (List.mem_append_left _ (by decide))
  exact .words chars (by decide) before (by decide) nonempty fits opened

-- A list that is kept in a variable; its words are spelled with the characters of labels, so they
-- have no parenthesis.
theorem reads_variable {opening mark : String} (hmark : mark ∈ listMarks)
    (chars : opening.toList = "    ".toList ++ mark.toList ++ ['"'])
    (before : ∀ c ∈ "    ".toList ++ mark.toList, c ≠ '"' ∧ c ≠ '\n' ∧ c ≠ ')')
    {words : List String} (nonempty : words ≠ [])
    (spelled : ∀ word ∈ words, ∀ c ∈ word.toList, isLabelChar c = true) :
    Reads [opening ++ Text.join " " words ++ "\""] [words] [] := by
  have closing : "\"".toList = ['"'] := rfl
  have lineChars : (opening ++ Text.join " " words ++ "\"").toList =
      "    ".toList ++ mark.toList ++ '"' :: ((Text.join " " words).toList ++ '"' :: []) := by
    rw [String.toList_append, String.toList_append, chars, closing]
    simp only [List.append_assoc, List.cons_append, List.nil_append]
  have fits : ∀ word ∈ words, Fits word := by
    intro word hword c hc
    exact (fits_of_isLabelChar c (spelled word hword c hc)).1
  have inside : ∀ c ∈ (Text.join " " words).toList, c ≠ ')' := by
    refine Text.forall_mem_join (by decide) fun word hword c hc => ?_
    exact (fits_of_isLabelChar c (spelled word hword c hc)).2.2
  have unclosed : ∀ c ∈ (opening ++ Text.join " " words ++ "\"").toList, c ≠ ')' := by
    rw [lineChars]
    refine List.forall_mem_append.mpr ⟨fun c hc => (before c hc).2.2, ?_⟩
    refine List.forall_mem_cons.mpr ⟨by decide, List.forall_mem_append.mpr ⟨inside, ?_⟩⟩
    decide
  exact .words lineChars hmark (fun c hc => ⟨(before c hc).1, (before c hc).2.1⟩) (by decide)
    nonempty fits (label?_eq_none fun close => unclosed _ close rfl)

theorem reads_label {indent label : String} (spaces : ∀ c ∈ indent.toList, c = ' ')
    (hlabel : ∀ c ∈ label.toList, isLabelChar c = true) :
    Reads [indent ++ label ++ ")"] [] [label] := by
  have chars : (indent ++ label ++ ")").toList = indent.toList ++ label.toList ++ [')'] := by
    rw [String.toList_append, String.toList_append]
    rfl
  have plain : ∀ c ∈ (indent ++ label ++ ")").toList, c ≠ '"' ∧ c ≠ '\n' := by
    rw [chars, List.forall_mem_append, List.forall_mem_append]
    refine ⟨⟨?_, ?_⟩, by decide⟩
    · intro c hc
      rw [spaces c hc]
      decide
    · intro c hc
      exact (fits_of_isLabelChar c (hlabel c hc)).1.2
  have read := Reads.line fun feed => (plain _ feed).2 rfl
  rw [list?_eq_none fun quote => (plain _ quote).1 rfl, label?_eq_some chars spaces hlabel] at read
  exact read

end Blocks

/-! ## 5. Scripts -/

def Spelled (text : String) : Prop := ∀ c ∈ text.toList, isLabelChar c = true

/-- A command whose names are spelled with the characters of labels, and that offers words only
that stay words. -/
structure CleanTopic (topic : Topic) : Prop where
  name : topic.name ≠ "" ∧ Spelled topic.name
  words : ∀ word ∈ topic.words, word ≠ "" ∧ Spelled word
  spellings : ∀ slot ∈ topic.slots, ∀ spelling ∈ slot.spellings, Spelled spelling
  offers : ∀ slot ∈ topic.slots, ∀ words, slot.offer = .words words →
    words ≠ [] ∧ ∀ word ∈ words, Clean word

structure CleanModel (c : Completion) : Prop where
  program : Spelled c.program
  known : c.topics ≠ []
  topics : ∀ topic ∈ c.topics, CleanTopic topic
  globals : c.globalWords ≠ [] ∧ ∀ word ∈ c.globalWords, word ≠ "" ∧ Spelled word

theorem Clean.fits {word : String} (clean : Clean word) : Fits word := by
  intro c hc
  obtain ⟨blank, quote, -⟩ := clean.2 c hc
  refine ⟨?_, quote, ?_⟩
  · rintro rfl
    cases blank
  · rintro rfl
    cases blank

theorem Spelled.clean {word : String} (spelled : Spelled word) (some : word ≠ "") : Clean word :=
  ⟨some, fun c hc => clean_of_isLabelChar c (spelled c hc)⟩

theorem Spelled.fits {text : String} (spelled : Spelled text) : Fits text :=
  fun c hc => (fits_of_isLabelChar c (spelled c hc)).1

theorem Spelled.plain {text : String} (spelled : Spelled text) :
    ∀ c ∈ text.toList, c ≠ '\n' ∧ c ≠ '"' ∧ c ≠ ')' := by
  intro c hc
  obtain ⟨⟨-, quote, feed⟩, -, close⟩ := fits_of_isLabelChar c (spelled c hc)
  exact ⟨feed, quote, close⟩

theorem spelled_functionName {c : Completion} (program : Spelled c.program) :
    Spelled c.functionName := by
  unfold Spelled Completion.functionName
  rw [String.toList_append, String.toList_map, List.forall_mem_append]
  refine ⟨by decide, ?_⟩
  intro ch hch
  obtain ⟨original, horiginal, rfl⟩ := List.mem_map.mp hch
  unfold functionChar
  split
  · exact program original horiginal
  · rfl

theorem spelled_bars {spellings : List String} (spelled : ∀ text ∈ spellings, Spelled text) :
    Spelled (Text.join "|" spellings) :=
  Text.forall_mem_join (by decide) spelled

theorem reads_findWords : Reads findWords [] [] := by
  unfold findWords
  repeat apply Reads.fixed (by decide)
  exact .nil

theorem reads_findCommand : Reads findCommand [] [] := by
  unfold findCommand
  repeat apply Reads.fixed (by decide)
  exact .nil

theorem fits_commandsVariable : Fits commandsVariable := by
  unfold Fits
  decide

theorem fits_globalsVariable : Fits globalsVariable := by
  unfold Fits
  decide

theorem CleanModel.names {c : Completion} (h : CleanModel c) :
    c.names ≠ [] ∧ ∀ word ∈ c.names, Spelled word := by
  refine ⟨fun none => h.known (List.map_eq_nil_iff.mp none), ?_⟩
  intro word hword
  obtain ⟨topic, htopic, rfl⟩ := List.mem_map.mp hword
  exact (h.topics topic htopic).name.2

theorem CleanModel.reads_preamble {c : Completion} (h : CleanModel c) :
    Reads (preamble c) [c.names, c.globalWords, [commandsVariable, globalsVariable]] [] := by
  have title : Reads ["# bash completion for " ++ c.program ++
      ". Generated by schemacli; do not edit."] [] [] := by
    refine .plain ?_
    rw [String.toList_append, String.toList_append, List.forall_mem_append,
      List.forall_mem_append]
    exact ⟨⟨by decide, h.program.plain⟩, by decide⟩
  have opening : Reads [c.functionName ++ "_completions() \x7b"] [] [] := by
    have spelled := spelled_functionName h.program
    have chars : (c.functionName ++ "_completions() \x7b").toList =
        c.functionName.toList ++ "_completions() \x7b".toList := String.toList_append
    have plain : ∀ ch ∈ (c.functionName ++ "_completions() \x7b").toList,
        ch ≠ '\n' ∧ ch ≠ '"' := by
      rw [chars, List.forall_mem_append]
      exact ⟨fun ch hch => ⟨(spelled.plain ch hch).1, (spelled.plain ch hch).2.1⟩, by decide⟩
    have opened : '(' ∈ (c.functionName ++ "_completions() \x7b").toList := by
      rw [chars]
      exact List.mem_append_right _ (by decide)
    exact .silent (fun feed => (plain _ feed).1 rfl) (fun quote => (plain _ quote).2 rfl)
      (if_pos opened)
  have commandsMark : "local commands=" ∈ listMarks := by decide
  have globalsMark : "local global_flags=" ∈ listMarks := by decide
  have commands : Reads ["    local commands=\"" ++ Text.join " " c.names ++ "\""] [c.names] [] :=
    reads_variable commandsMark rfl (by decide) h.names.1 h.names.2
  have globals : Reads ["    local global_flags=\"" ++ Text.join " " c.globalWords ++ "\""]
      [c.globalWords] [] :=
    reads_variable globalsMark rfl (by decide) h.globals.1
      fun word hword => (h.globals.2 word hword).2
  have first : Reads ["", "    if [[ $\x7bcword\x7d -eq 1 ]]; then"] [] [] :=
    .fixed (by decide) (.fixed (by decide) .nil)
  have offered : Reads ["        " ++ reply (wordList [commandsVariable, globalsVariable])]
      [[commandsVariable, globalsVariable]] [] :=
    reads_reply (by decide) (by decide)
      (List.forall_mem_cons.mpr ⟨fits_commandsVariable,
        List.forall_mem_singleton.mpr fits_globalsVariable⟩)
  have last : Reads ["        return 0", "    fi", ""] [] [] :=
    .fixed (by decide) (.fixed (by decide) (.fixed (by decide) .nil))
  have cases : Reads ["    case \"$\x7bcmd\x7d\" in"] [] [] := .fixed (by decide) .nil
  have blank : Reads [""] [] [] := .fixed (by decide) .nil
  exact (((title.append (blank.append opening)).append reads_findWords).append
    ((commands.append globals).append (first.append (offered.append last)))).append
      reads_findCommand |>.append cases

theorem reads_slotCase {slot : Slot}
    (spelled : ∀ spelling ∈ slot.spellings, Spelled spelling)
    (offers : ∀ words, slot.offer = .words words →
      words ≠ [] ∧ ∀ word ∈ words, Clean word) :
    Reads (slotCase slot) (Offer.words? slot.offer).toList [Text.join "|" slot.spellings] := by
  have label : Reads ["                " ++ Text.join "|" slot.spellings ++ ")"] []
      [Text.join "|" slot.spellings] := reads_label (by decide) (spelled_bars spelled)
  have last : Reads ["                    return 0", "                    ;;"] [] [] :=
    .fixed (by decide) (.fixed (by decide) .nil)
  have offered : Reads ["                    " ++ reply (offerSource slot.offer)]
      (Offer.words? slot.offer).toList [] := by
    cases offer : slot.offer with
    | files => constructor <;> decide
    | words words =>
      obtain ⟨some, clean⟩ := offers words offer
      exact reads_reply (by decide) some fun word hword => (clean word hword).fits
  have all := label.append (offered.append last)
  rw [List.append_nil] at all
  exact all

theorem CleanTopic.reads_slotCases {topic : Topic} (h : CleanTopic topic) :
    Reads (slotCases topic.slots) (topic.slots.filterMap fun slot => Offer.words? slot.offer)
      (topic.slots.map fun slot => Text.join "|" slot.spellings) := by
  have each : Reads (topic.slots.flatMap slotCase)
      (topic.slots.flatMap fun slot => (Offer.words? slot.offer).toList)
      (topic.slots.flatMap fun slot => [Text.join "|" slot.spellings]) :=
    .flatMap fun slot hslot => reads_slotCase (h.spellings slot hslot) (h.offers slot hslot)
  rw [← List.filterMap_eq_flatMap_toList, ← List.map_eq_flatMap] at each
  have first : Reads ["            case \"$\x7bprev\x7d\" in"] [] [] := .fixed (by decide) .nil
  have last : Reads ["            esac"] [] [] := .fixed (by decide) .nil
  cases slots : topic.slots with
  | nil => exact .nil
  | cons slot more =>
    rw [slots] at each
    have all := (first.append each).append last
    rw [List.append_nil, List.append_nil] at all
    exact all

theorem CleanTopic.reads_topicBody {topic : Topic} (h : CleanTopic topic) :
    Reads (topicBody topic) (topicLists topic)
      (if topic.takesCommands then []
        else topic.slots.map fun slot => Text.join "|" slot.spellings) := by
  unfold topicBody topicLists
  cases topic.takesCommands with
  | true =>
    exact reads_reply (by decide) (by decide) (List.forall_mem_singleton.mpr fits_commandsVariable)
  | false =>
    have own : ∀ word ∈ topic.words ++ [globalsVariable], Fits word := by
      refine List.forall_mem_append.mpr ⟨?_, List.forall_mem_singleton.mpr fits_globalsVariable⟩
      intro word hword
      obtain ⟨some, spelled⟩ := h.words word hword
      exact (spelled.clean some).fits
    have offered : Reads ["            " ++ reply (wordList (topic.words ++ [globalsVariable]))]
        [topic.words ++ [globalsVariable]] [] := reads_reply (by decide) (by simp) own
    have all := h.reads_slotCases.append offered
    rw [List.append_nil] at all
    exact all

theorem CleanTopic.reads_topicCase {topic : Topic} (h : CleanTopic topic) :
    Reads (topicCase topic) (topicLists topic) (topicLabels topic) := by
  have label : Reads ["        " ++ topic.name ++ ")"] [] [topic.name] :=
    reads_label (by decide) h.name.2
  have last : Reads ["            return 0", "            ;;"] [] [] :=
    .fixed (by decide) (.fixed (by decide) .nil)
  have all := (label.append h.reads_topicBody).append last
  rw [List.append_nil, List.append_nil] at all
  exact all

theorem CleanModel.reads_topicCases {c : Completion} (h : CleanModel c) :
    Reads (topicCases c.topics) (c.topics.flatMap topicLists) (c.topics.flatMap topicLabels) := by
  have some : c.topics.isEmpty = false := by
    rw [List.isEmpty_eq_false_iff]
    exact h.known
  unfold topicCases
  rw [some, if_neg Bool.false_ne_true]
  exact .flatMap fun topic htopic => (h.topics topic htopic).reads_topicCase

theorem CleanModel.reads_epilogue {c : Completion} (h : CleanModel c) :
    Reads (epilogue c) [[globalsVariable]] ["*"] := by
  have other : Reads ["        *)"] [] ["*"] := by
    constructor <;> decide
  have offered : Reads ["            " ++ reply (wordList [globalsVariable])]
      [[globalsVariable]] [] :=
    reads_reply (by decide) (by decide) (List.forall_mem_singleton.mpr fits_globalsVariable)
  have closing :
      Reads ["            return 0", "            ;;", "    esac", "\x7d", ""] [] [] := by
    repeat apply Reads.fixed (by decide)
    exact .nil
  have last : Reads ["complete -F " ++ c.functionName ++ "_completions " ++ c.program] [] [] := by
    refine .plain ?_
    rw [String.toList_append, String.toList_append, String.toList_append, List.forall_mem_append,
      List.forall_mem_append, List.forall_mem_append]
    exact ⟨⟨⟨by decide, (spelled_functionName h.program).plain⟩, by decide⟩, h.program.plain⟩
  exact (other.append (offered.append closing)).append last

/-- What is read in the script of a model is what the model offers. -/
theorem CleanModel.reads_lines {c : Completion} (h : CleanModel c) :
    Reads (lines c)
      ([c.names, c.globalWords, [commandsVariable, globalsVariable]] ++
        c.topics.flatMap topicLists ++ [[globalsVariable]])
      (c.topics.flatMap topicLabels ++ ["*"]) :=
  (h.reads_preamble.append h.reads_topicCases).append h.reads_epilogue

theorem split_script {c : Completion} (whole : ∀ line ∈ lines c, '\n' ∉ line.toList) :
    Text.split '\n' (script c) = lines c ++ [""] := by
  have some : lines c ≠ [] := by
    unfold lines preamble
    simp
  exact Text.split_of_chars (Text.toList_join_append some) whole

theorem CleanModel.read_script {c : Completion} (h : CleanModel c) :
    listsIn (script c) =
        [c.names, c.globalWords, [commandsVariable, globalsVariable]] ++
          c.topics.flatMap topicLists ++ [[globalsVariable]] ∧
      labelsIn (script c) = c.topics.flatMap topicLabels ++ ["*"] := by
  have read := h.reads_lines
  have pieces := split_script read.whole
  unfold listsIn labelsIn
  rw [pieces, List.filterMap_append, List.filterMap_append, read.lists, read.labels]
  exact ⟨List.append_nil _, List.append_nil _⟩

theorem CleanTopic.clean_of_mem_topicWords {topic : Topic} (h : CleanTopic topic) :
    ∀ word ∈ topicWords topic, Clean word := by
  refine List.forall_mem_append.mpr ⟨?_, ?_⟩
  · intro word hword
    obtain ⟨some, spelled⟩ := h.words word hword
    exact spelled.clean some
  · intro word hword
    obtain ⟨words, hwords, hword⟩ := List.mem_flatten.mp hword
    obtain ⟨slot, hslot, offered⟩ := List.mem_filterMap.mp hwords
    cases offer : slot.offer with
    | files =>
      rw [offer] at offered
      cases offered
    | words choices =>
      rw [offer] at offered
      obtain rfl := Option.some.inj offered
      exact (h.offers slot hslot choices offer).2 word hword

theorem CleanModel.clean_of_mem_offeredWords {c : Completion} (h : CleanModel c) :
    ∀ word ∈ offeredWords c, Clean word := by
  refine List.forall_mem_append.mpr ⟨List.forall_mem_append.mpr ⟨?_, ?_⟩, ?_⟩
  · intro word hword
    obtain ⟨topic, htopic, rfl⟩ := List.mem_map.mp hword
    obtain ⟨some, spelled⟩ := (h.topics topic htopic).name
    exact spelled.clean some
  · intro word hword
    obtain ⟨some, spelled⟩ := h.globals.2 word hword
    exact spelled.clean some
  · intro word hword
    obtain ⟨topic, htopic, hword⟩ := List.mem_flatMap.mp hword
    exact (h.topics topic htopic).clean_of_mem_topicWords word hword

theorem CleanModel.spelled_of_mem_labels {c : Completion} (h : CleanModel c) :
    ∀ label ∈ c.topics.flatMap topicLabels, Spelled label := by
  intro label hlabel
  obtain ⟨topic, htopic, hlabel⟩ := List.mem_flatMap.mp hlabel
  have own := h.topics topic htopic
  rcases List.mem_cons.mp hlabel with rfl | hlabel
  · exact own.name.2
  · split at hlabel
    · cases hlabel
    · obtain ⟨slot, hslot, rfl⟩ := List.mem_map.mp hlabel
      exact spelled_bars (own.spellings slot hslot)

/-! ## 6. Runs of the compiler -/

/-- A flag whose names are spelled with the characters of labels, and in the place of whose value
words are offered that stay words. -/
structure CleanFlag (flag : Flag) : Prop where
  long : Spelled flag.long
  short : Spelled flag.short
  offers : ∀ words, flag.offer? = some (.words words) → words ≠ [] ∧ ∀ word ∈ words, Clean word

theorem CleanFlag.spellings {flag : Flag} (h : CleanFlag flag) :
    ∀ spelling ∈ flag.spellings, spelling ≠ "" ∧ Spelled spelling := by
  have dashed : ∀ {dashes name : String}, dashes ≠ "" → Spelled dashes → Spelled name →
      dashes ++ name ≠ "" ∧ Spelled (dashes ++ name) := by
    intro dashes name some dashes_spelled name_spelled
    refine ⟨fun none => some (String.append_eq_empty_iff.mp none).1, ?_⟩
    unfold Spelled
    rw [String.toList_append]
    exact List.forall_mem_append.mpr ⟨dashes_spelled, name_spelled⟩
  have two : Spelled "--" := by unfold Spelled; decide
  have one : Spelled "-" := by unfold Spelled; decide
  have long := dashed (by decide) two h.long
  have short := dashed (by decide) one h.short
  unfold Flag.spellings Flag.spellingsOf
  split
  · exact List.forall_mem_singleton.mpr long
  · exact List.forall_mem_cons.mpr ⟨long, List.forall_mem_singleton.mpr short⟩

theorem cleanTopic_of_entry {e : Catalogue.Entry} (name : e.name ≠ "" ∧ Spelled e.name)
    (flags : ∀ flag ∈ e.flags, CleanFlag flag) : CleanTopic e.topic where
  name := name
  words := by
    rw [e.words_topic]
    intro word hword
    obtain ⟨flag, hflag, hword⟩ := List.mem_flatMap.mp hword
    exact (flags flag hflag).spellings word hword
  spellings := by
    intro slot hslot spelling hspelling
    obtain ⟨flag, hflag, found⟩ := List.mem_filterMap.mp hslot
    obtain ⟨offer, -, rfl⟩ := Option.map_eq_some_iff.mp found
    exact ((flags flag hflag).spellings spelling hspelling).2
  offers := by
    intro slot hslot words offers
    obtain ⟨flag, hflag, found⟩ := List.mem_filterMap.mp hslot
    obtain ⟨offer, offered, rfl⟩ := Option.map_eq_some_iff.mp found
    obtain rfl : offer = .words words := offers
    exact (flags flag hflag).offers words offered

theorem spelled_of_isName {name : String} (named : Check.isName name = true) : Spelled name := by
  intro c hc
  rw [isLabelChar, Check.isNameChar_of_mem named hc]
  rfl

theorem spelled_of_isShortName {short : String}
    (named : short ≠ "" → Compiler.isShortName short = true) : Spelled short := by
  intro c hc
  have some : short ≠ "" := by
    rintro rfl
    cases hc
  obtain ⟨letter, alnum, single⟩ := Compiler.exists_of_isShortName (named some)
  rw [single] at hc
  obtain rfl := List.mem_singleton.mp hc
  rw [isLabelChar, Check.isNameChar, alnum]
  rfl

-- The checks of the compiler: names and short names are matched as a whole, and a choice with a
-- character that would end its word is refused.
theorem cleanFlag_of_checkArg {command : String} {lone : Text.StandIns} {arg : Arg} {flag : Flag}
    (checked : Compiler.checkArg command lone arg = .ok flag) : CleanFlag flag := by
  obtain ⟨long, short, type, read, safe, default, -, rfl⟩ :=
    Compiler.checkArg_eq_ok_iff.mp checked
  refine ⟨spelled_of_isName long, spelled_of_isShortName short, ?_⟩
  intro words offered
  have normal := ValueType.ofText_normal read
  unfold Flag.offer? at offered
  dsimp only at offered
  rw [normal] at offered
  cases type with
  | boolean =>
    cases offered
    unfold Clean
    exact ⟨by decide, by decide⟩
  | choice choices =>
    cases offered
    refine ⟨ValueType.ne_nil_of_choice read, ?_⟩
    intro word hword
    refine ⟨ValueType.ne_empty_of_mem_choices read word hword, ?_⟩
    intro c hc
    have harmless : Compiler.isUnsafe c = false := by
      simpa using List.any_eq_false.mp (safe word hword) c hc
    simp only [Compiler.isUnsafe, Bool.or_eq_false_iff, beq_eq_false_iff_ne] at harmless
    obtain ⟨⟨⟨⟨⟨blank, single⟩, double⟩, backtick⟩, backslash⟩, dollar⟩ := harmless
    exact ⟨blank, double, single, backslash, backtick, dollar⟩
  | path | text | integer | switch => cases offered

theorem cleanFlag_builtins : ∀ flag ∈ Flag.builtins, CleanFlag flag := by
  have long : ∀ flag ∈ Flag.builtins, Spelled flag.long := by
    unfold Spelled
    decide
  have short : ∀ flag ∈ Flag.builtins, Spelled flag.short := by
    unfold Spelled
    decide
  have offer : ∀ flag ∈ Flag.builtins, flag.offer? = none := by decide
  intro flag hflag
  refine ⟨long flag hflag, short flag hflag, ?_⟩
  intro words offered
  rw [offer flag hflag] at offered
  cases offered

theorem cleanFlag_shellFlag : CleanFlag Flag.shellFlag := by
  have offer : Flag.shellFlag.offer? = some (.words ["bash", "zsh"]) := rfl
  refine ⟨by unfold Spelled; decide, by unfold Spelled; decide, ?_⟩
  intro words offered
  rw [offer] at offered
  cases offered
  unfold Clean
  exact ⟨by decide, by decide⟩

theorem cleanModel_compileAll (schemas : List (Schema × Path)) {program : String}
    (named : Check.isName program = true) :
    CleanModel {
      program
      topics := (Compiler.fresh.compileAll schemas).entries.map Catalogue.Entry.topic
      globals := Flag.builtins.flatMap Flag.described } where
  program := spelled_of_isName named
  known := by simp [Compiler.entries, Catalogue.builtinEntries, Builtin.all]
  topics := by
    intro topic htopic
    obtain ⟨e, he, rfl⟩ := List.mem_map.mp htopic
    rcases List.mem_append.mp he with builtin | accepted
    · have name : ∀ e ∈ Catalogue.builtinEntries, e.name ≠ "" ∧ Spelled e.name := by
        unfold Spelled
        decide
      refine cleanTopic_of_entry (name e builtin) ?_
      intro flag hflag
      obtain ⟨b, -, rfl⟩ := List.mem_map.mp builtin
      dsimp only at hflag
      split at hflag
      · rw [List.mem_singleton.mp hflag]
        exact cleanFlag_shellFlag
      · cases hflag
    · obtain ⟨command, hcommand, rfl⟩ := List.mem_map.mp accepted
      have checked := (Compiler.consistent_compileAll schemas).checked command hcommand
      refine cleanTopic_of_entry
        ⟨Check.ne_empty_of_isName checked.name, spelled_of_isName checked.name⟩ ?_
      intro flag hflag
      obtain ⟨arg, -, passed⟩ := exists_of_mem_mapM checked.flags hflag
      exact cleanFlag_of_checkArg passed
  globals := by
    show (Flag.builtins.flatMap Flag.described).map Spelling.text ≠ [] ∧
      ∀ word ∈ (Flag.builtins.flatMap Flag.described).map Spelling.text, word ≠ "" ∧ Spelled word
    rw [Flag.words_flatMap_described]
    refine ⟨by decide, ?_⟩
    intro word hword
    obtain ⟨flag, hflag, hword⟩ := List.mem_flatMap.mp hword
    exact (cleanFlag_builtins flag hflag).spellings word hword

/-- In the script for the commands of any schemas that have been compiled, the lists of words that
stand between double quotes, cut at the spaces, are the lists of the model: the names of the
commands, the spellings of the global flags, and for each command its own spellings and the choices
of its flags.  Each of these words is clean; beside them there are only the two variables for the
first two lists.  The labels of the cases are the names of the commands and the spellings of flags
with bars between them, and they have no other characters than names and the bar. -/
theorem script_compileAll (schemas : List (Schema × Path)) {program : String}
    (named : Check.isName program = true) :
    ∃ model, Completion.ofCatalogue (Compiler.fresh.compileAll schemas).catalogue program =
        .ok model ∧
      listsIn (script model) =
        [model.names, model.globalWords, [commandsVariable, globalsVariable]] ++
          model.topics.flatMap topicLists ++ [[globalsVariable]] ∧
      (∀ word ∈ offeredWords model, Clean word) ∧
      labelsIn (script model) = model.topics.flatMap topicLabels ++ ["*"] ∧
      ∀ label ∈ model.topics.flatMap topicLabels, ∀ c ∈ label.toList,
        Check.isNameChar c = true ∨ c = '|' := by
  have clean := cleanModel_compileAll schemas named
  refine ⟨_, Compiler.ofCatalogue_compileAll schemas program, clean.read_script.1,
    clean.clean_of_mem_offeredWords, clean.read_script.2, ?_⟩
  intro label hlabel c hc
  have spelled := clean.spelled_of_mem_labels label hlabel c hc
  rw [isLabelChar, Bool.or_eq_true, beq_iff_eq] at spelled
  exact spelled

def tones : Schema × Path :=
  ({ name := "greet", description := "Greet someone", source := none
     args := [{ name := "tone", short := "t", type := "enum:warm:cold" }] },
    ⟨0, ["greet", "main.py"]⟩)

theorem script_tones :
    Check.isName "tool" = true ∧
      ∃ model, Completion.ofCatalogue (Compiler.fresh.compileAll [tones]).catalogue "tool" =
          .ok model ∧
        ["warm", "cold"] ∈ listsIn (script model) ∧ "--tone|-t" ∈ labelsIn (script model) ∧
        (∀ word ∈ offeredWords model, Clean word) ∧
        ∀ label ∈ model.topics.flatMap topicLabels, ∀ c ∈ label.toList,
          Check.isNameChar c = true ∨ c = '|' := by
  have named : Check.isName "tool" = true := by decide
  obtain ⟨model, offered, lists, clean, labels, spelled⟩ := script_compileAll [tones] named
  let topic : Topic := Catalogue.Entry.topic ⟨"greet", "Greet someone",
    [{ long := "tone", short := "t", type := "enum:warm:cold", scope := "greet" }]⟩
  have htopic : topic ∈ model.topics := by
    rw [Compiler.ofCatalogue_compileAll] at offered
    obtain rfl := Except.ok.inj offered
    exact List.mem_map_of_mem (List.mem_append_right _ (List.mem_singleton.mpr rfl))
  refine ⟨named, model, offered, ?_, ?_, clean, spelled⟩
  · rw [lists]
    refine List.mem_append_left _
      (List.mem_append_right _ (List.mem_flatMap.mpr ⟨topic, htopic, ?_⟩))
    exact List.mem_cons_self
  · rw [labels]
    refine List.mem_append_left _ (List.mem_flatMap.mpr ⟨topic, htopic, ?_⟩)
    exact List.mem_cons_of_mem _ List.mem_cons_self

end Toolsmith.Completion.Bash
