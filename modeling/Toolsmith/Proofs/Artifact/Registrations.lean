import Mathlib.Data.List.Basic
import Toolsmith.Artifact.Registrations
import Toolsmith.Proofs.Schema.Project
import Toolsmith.Proofs.Text.Quoted
/-!
# Reading the registrations back

The source of the registrations is read line by line: after the header, every line has to be a
comment, the registration of a flag or the registration of a command, with its arguments as
literals.  What is read from the source that was written for some compiled commands is what was
compiled (`read?_source`), so no text among the fields can end its literal or its line.
-/

namespace Toolsmith.Registrations

open Text

/-! ## 1. Readers -/

/-- Reads from the front of some characters and leaves the others. -/
abbrev Reader := StateT (List Char) Option

/-- A reader reads some characters as a value, whatever follows them. -/
def Reads {α : Type} (reader : Reader α) (value : α) (cs : List Char) : Prop :=
  ∀ rest, reader (cs ++ rest) = some (value, rest)

/-- A line of the module by what it does.  Texts are given by their code points. -/
inductive Statement
  | comment (text : List Char)
  | flag (long short type : List Nat) (required : Bool) (default help scope : List Nat)
  | command (name description : List Nat) (handler : List Nat × List Nat × List Nat)
  deriving DecidableEq, Repr

namespace Reader

def expect (text : String) : Reader Unit := fun cs =>
  (cs.dropPrefix? text.toList).map fun rest => ((), rest)

def literal : Reader (List Nat) := Quoted.literal?

def truth : Reader Bool := fun cs =>
  match cs.dropPrefix? "True".toList with
  | some rest => some (true, rest)
  | none => (cs.dropPrefix? "False".toList).map fun rest => (false, rest)

def comment : Reader Statement := do
  expect "    # "
  fun cs => some (.comment cs, [])

def flag : Reader Statement := do
  expect "    app.flags.register(FlagDefinition("
  let long ← literal
  expect ", "
  let short ← literal
  expect ", "
  let type ← literal
  expect ", "
  let required ← truth
  expect ", "
  let default ← literal
  expect ", "
  let help ← literal
  expect ", "
  let scope ← literal
  expect "))"
  return .flag long short type required default help scope

def handler : Reader (List Nat × List Nat × List Nat) := do
  expect "LazyHandler("
  let command ← literal
  expect ", "
  let module ← literal
  expect ", "
  let member ← literal
  expect ")"
  return (command, module, member)

def command : Reader Statement := do
  expect "    app.commands.register("
  let name ← literal
  expect ", "
  let description ← literal
  expect ", "
  let parts ← handler
  expect ")"
  return .command name description parts

/-- What a reader reads if nothing is left. -/
def whole? {α : Type} (reader : Reader α) (line : String) : Option α :=
  match reader line.toList with
  | some (a, []) => some a
  | _ => none

end Reader

def statement? (line : String) : Option Statement :=
  (Reader.flag.whole? line).or ((Reader.command.whole? line).or (Reader.comment.whole? line))

/-- What the lines after the header do, if there is the header and every line can be read. -/
def read? (source : String) : Option (List Statement) :=
  match (Text.lines source).dropPrefix? header with
  | some body => body.mapM statement?
  | none => none

/-! ## 2. What should be read -/

def flagStatement (lone : StandIns) (flag : Flag) : Statement :=
  let codes (s : String) : List Nat := Quoted.codes lone s.toList
  .flag (codes flag.long) (codes flag.short) (codes flag.type) flag.required (codes flag.default)
    (codes flag.help) (codes flag.scope)

def commandStatement (package : String) (command : Compiled) : Statement :=
  let codes (s : String) : List Nat := s.toList.map Char.toNat
  let name := command.schema.name
  .command (codes name) (Quoted.codes command.schema.lone command.schema.description.toList)
    (codes name, codes (package ++ "." ++ command.module), codes (conventionalName name))

def statements (package : String) (command : Compiled) : List Statement :=
  .comment command.schema.name.toList ::
    command.flags.map (flagStatement command.schema.lone) ++ [commandStatement package command]

/-! ## 3. Single lines -/

namespace Reads

variable {α β : Type}

theorem pure (value : α) : Reads (Pure.pure value) value [] := fun _ => rfl

theorem bind {reader : Reader α} {next : α → Reader β} {a : α} {b : β} {cs ds : List Char}
    (first : Reads reader a cs) (second : Reads (next a) b ds) :
    Reads (reader >>= next) b (cs ++ ds) := by
  intro rest
  show (reader (cs ++ ds ++ rest) >>= fun p => next p.1 p.2) = _
  rw [List.append_assoc, first (ds ++ rest)]
  exact second rest

theorem last {reader : Reader α} {a : α} {cs : List Char} (h : Reads reader a cs)
    (result : α → β) : Reads (reader >>= fun a => Pure.pure (result a)) (result a) cs := by
  rw [← List.append_nil cs]
  exact h.bind (Reads.pure _)

theorem expect (text : String) : Reads (Reader.expect text) () text.toList := by
  intro rest
  rw [Reader.expect, List.dropPrefix?_append_of_beq rest (beq_self_eq_true _)]
  rfl

theorem literal {lone : StandIns} (h : Quoted.Lone lone) (s : String) :
    Reads Reader.literal (Quoted.codes lone s.toList) (Quoted.literal s lone).toList := by
  intro rest
  rw [Quoted.literal, String.toList_ofList]
  exact Quoted.literal?_encode h s.toList rest

theorem truth (b : Bool) : Reads Reader.truth b (Registrations.truth b).toList := by
  intro rest
  cases b with
  | true =>
    show Reader.truth ("True".toList ++ rest) = some (true, rest)
    rw [Reader.truth, List.dropPrefix?_append_of_beq rest (beq_self_eq_true _)]
  | false =>
    show Reader.truth ("False".toList ++ rest) = some (false, rest)
    have other : ("False".toList ++ rest).dropPrefix? "True".toList = none := rfl
    rw [Reader.truth, other, List.dropPrefix?_append_of_beq rest (beq_self_eq_true _)]
    rfl

theorem whole? {reader : Reader α} {a : α} {line : String} (h : Reads reader a line.toList) :
    reader.whole? line = some a := by
  have := h []
  rw [List.append_nil] at this
  rw [Reader.whole?, this]

end Reads

theorem toList_join_cons (first second : String) (others : List String) :
    (join ", " (first :: second :: others)).toList =
      first.toList ++ (", ".toList ++ (join ", " (second :: others)).toList) := by
  rw [join, join, String.toList_intercalate, String.toList_intercalate, List.map_cons,
    List.map_cons, List.intercalate_cons_cons, List.append_assoc]

theorem toList_join_singleton (only : String) : (join ", " [only]).toList = only.toList := by
  rw [join, String.toList_intercalate, List.map_singleton, List.intercalate_singleton]

/-- The line of a flag is read as the seven fields of the flag. -/
theorem reads_flagLine {lone : StandIns} (h : Quoted.Lone lone) (flag : Flag) :
    Reads Reader.flag (flagStatement lone flag) (flagLine lone flag).toList := by
  unfold flagLine Reader.flag
  dsimp only
  rw [String.toList_append, String.toList_append]
  -- The line falls into what the reader reads one after another.
  simp only [toList_join_cons, toList_join_singleton, List.append_assoc]
  apply Reads.bind (Reads.expect _)
  apply Reads.bind (Reads.literal h flag.long)
  apply Reads.bind (Reads.expect _)
  apply Reads.bind (Reads.literal h flag.short)
  apply Reads.bind (Reads.expect _)
  apply Reads.bind (Reads.literal h flag.type)
  apply Reads.bind (Reads.expect _)
  apply Reads.bind (Reads.truth flag.required)
  apply Reads.bind (Reads.expect _)
  apply Reads.bind (Reads.literal h flag.default)
  apply Reads.bind (Reads.expect _)
  apply Reads.bind (Reads.literal h flag.help)
  apply Reads.bind (Reads.expect _)
  apply Reads.bind (Reads.literal h flag.scope)
  exact (Reads.expect _).last _

-- A text in which nothing stands in for anything is read as its characters.
theorem Reads.plain (s : String) :
    Reads Reader.literal (s.toList.map Char.toNat) (Quoted.literal s).toList := by
  rw [← Quoted.codes_nil]
  exact Reads.literal Quoted.lone_nil s

theorem reads_text (d : Deferred) :
    Reads Reader.handler (d.command.toList.map Char.toNat, d.module.toList.map Char.toNat,
      d.member.toList.map Char.toNat) d.text.toList := by
  -- The literals of the three parts, written out.
  have text : d.text = "LazyHandler(" ++ join ", " [Quoted.literal d.command,
      Quoted.literal d.module, Quoted.literal d.member] ++ ")" := rfl
  unfold Reader.handler
  rw [text, String.toList_append, String.toList_append]
  simp only [toList_join_cons, toList_join_singleton, List.append_assoc]
  apply Reads.bind (Reads.expect _)
  apply Reads.bind (Reads.plain d.command)
  apply Reads.bind (Reads.expect _)
  apply Reads.bind (Reads.plain d.module)
  apply Reads.bind (Reads.expect _)
  apply Reads.bind (Reads.plain d.member)
  exact (Reads.expect _).last _

/-- The line of a command is read as its name, its description and the parts of its handler. -/
theorem reads_commandLine {command : Compiled} (h : Quoted.Lone command.schema.lone)
    (package : String) :
    Reads Reader.command (commandStatement package command)
      (commandLine package command).toList := by
  unfold commandLine Reader.command
  dsimp only
  rw [String.toList_append, String.toList_append]
  simp only [toList_join_cons, toList_join_singleton, List.append_assoc]
  apply Reads.bind (Reads.expect _)
  apply Reads.bind (Reads.plain command.schema.name)
  apply Reads.bind (Reads.expect _)
  apply Reads.bind (Reads.literal h command.schema.description)
  apply Reads.bind (Reads.expect _)
  apply Reads.bind (reads_text (handlerOf package command))
  exact (Reads.expect _).last _

/-! ## 4. The kinds of lines -/

theorem statement?_flagLine {lone : StandIns} (h : Quoted.Lone lone) (flag : Flag) :
    statement? (flagLine lone flag) = some (flagStatement lone flag) := by
  rw [statement?, (reads_flagLine h flag).whole?]
  rfl

theorem whole?_eq_none {α : Type} {text : String} {next : Reader α} {line : String}
    (other : line.toList.dropPrefix? text.toList = none) :
    (Reader.expect text >>= fun _ => next).whole? line = none := by
  have failed : (Reader.expect text >>= fun _ => next) line.toList = none := by
    show (Reader.expect text line.toList >>= fun p => next p.2) = none
    rw [Reader.expect, other]
    rfl
  rw [Reader.whole?, failed]

theorem statement?_commandLine {command : Compiled} (h : Quoted.Lone command.schema.lone)
    (package : String) :
    statement? (commandLine package command) = some (commandStatement package command) := by
  have other : Reader.flag.whole? (commandLine package command) = none := by
    refine whole?_eq_none ?_
    unfold commandLine
    dsimp only
    rw [String.toList_append, String.toList_append, List.append_assoc]
    rfl
  rw [statement?, other, (reads_commandLine h package).whole?]
  rfl

theorem statement?_comment (name : String) :
    statement? ("    # " ++ name) = some (.comment name.toList) := by
  have flag : Reader.flag.whole? ("    # " ++ name) = none := by
    refine whole?_eq_none ?_
    rw [String.toList_append]
    rfl
  have command : Reader.command.whole? ("    # " ++ name) = none := by
    refine whole?_eq_none ?_
    rw [String.toList_append]
    rfl
  have comment : Reader.comment ("    # " ++ name).toList = some (.comment name.toList, []) := by
    rw [String.toList_append]
    show (Reader.expect "    # " ("    # ".toList ++ name.toList) >>= fun p =>
      some (Statement.comment p.2, [])) = _
    rw [Reads.expect "    # " name.toList]
    rfl
  rw [statement?, flag, command, Reader.whole?, comment]
  rfl

theorem mapM_statement?_flags {lone : StandIns} (h : Quoted.Lone lone) (flags : List Flag) :
    (flags.map (flagLine lone)).mapM statement? = some (flags.map (flagStatement lone)) := by
  induction flags with
  | nil => rfl
  | cons flag flags ih =>
    rw [List.map_cons, List.mapM_cons, statement?_flagLine h, ih]
    rfl

theorem mapM_statement?_commandLines {command : Compiled} (h : Quoted.Lone command.schema.lone)
    (package : String) :
    (commandLines package command).mapM statement? = some (statements package command) := by
  rw [commandLines, List.cons_append, List.mapM_cons, List.mapM_append, statement?_comment,
    mapM_statement?_flags h, List.mapM_cons, statement?_commandLine h]
  rfl

theorem mapM_statement?_flatMap {commands : List Compiled}
    (h : ∀ command ∈ commands, Quoted.Lone command.schema.lone) (package : String) :
    (commands.flatMap (commandLines package)).mapM statement? =
      some (commands.flatMap (statements package)) := by
  induction commands with
  | nil => rfl
  | cons command commands ih =>
    rw [List.flatMap_cons, List.mapM_append,
      mapM_statement?_commandLines (h command List.mem_cons_self),
      ih fun c hc => h c (List.mem_cons_of_mem command hc)]
    rfl

/-! ## 5. The whole source -/

theorem unbroken_header : ∀ line ∈ header, Unbroken line.toList := by
  decide

theorem unbroken_listed {before behind : String} {parts : List String}
    (start : Unbroken before.toList) (finish : Unbroken behind.toList)
    (each : ∀ part ∈ parts, Unbroken part.toList) :
    Unbroken (before ++ join ", " parts ++ behind).toList := by
  simp only [String.toList_append, unbroken_append]
  exact ⟨⟨start, unbroken_join (by decide) each⟩, finish⟩

theorem unbroken_flagLine (lone : StandIns) (flag : Flag) :
    Unbroken (flagLine lone flag).toList := by
  have truth : ∀ b, Unbroken (truth b).toList := by
    decide
  refine unbroken_listed (by decide) (by decide) ?_
  simp only [List.forall_mem_cons, Quoted.unbroken_literal, truth, true_and]
  exact List.forall_mem_nil _

theorem unbroken_text (d : Deferred) : Unbroken d.text.toList := by
  refine unbroken_listed (by decide) (by decide) ?_
  intro part hpart
  obtain ⟨s, -, rfl⟩ := List.mem_map.mp hpart
  exact Quoted.unbroken_literal s []

theorem unbroken_commandLine (package : String) (command : Compiled) :
    Unbroken (commandLine package command).toList := by
  refine unbroken_listed (by decide) (by decide) ?_
  simp only [List.forall_mem_cons, Quoted.unbroken_literal, unbroken_text, true_and]
  exact List.forall_mem_nil _

-- A name does not end the comment that it stands in.
theorem unbroken_of_isName {name : String} (h : Check.isName name = true) :
    Unbroken name.toList := by
  intro c hc
  cases ends : isLineEnd c with
  | false => rfl
  | true =>
    have nameChar := Check.isNameChar_of_mem h hc
    simp only [isLineEnd, Bool.or_eq_true, beq_iff_eq] at ends
    rcases ends with ((((((((rfl | rfl) | rfl) | rfl) | rfl) | rfl) | rfl) | rfl) | rfl) | rfl <;>
      revert nameChar <;> decide

theorem unbroken_commandLines (package : String) {command : Compiled}
    (h : Check.isName command.schema.name = true) :
    ∀ line ∈ commandLines package command, Unbroken line.toList := by
  unfold commandLines
  rw [List.cons_append, List.forall_mem_cons, List.forall_mem_append, List.forall_mem_singleton]
  refine ⟨?_, ?_, unbroken_commandLine package command⟩
  · simp only [String.toList_append, unbroken_append]
    exact ⟨by decide, unbroken_of_isName h⟩
  · intro line hline
    obtain ⟨flag, -, rfl⟩ := List.mem_map.mp hline
    exact unbroken_flagLine _ flag

theorem read?_source_of_named {commands : List Compiled}
    (lone : ∀ command ∈ commands, Quoted.Lone command.schema.lone)
    (named : ∀ command ∈ commands, Check.isName command.schema.name = true)
    (nonempty : commands ≠ []) (package : String) :
    Text.lines (source package commands) =
        header ++ commands.flatMap (commandLines package) ∧
      read? (source package commands) = some (commands.flatMap (statements package)) := by
  have body : lines package commands = header ++ commands.flatMap (commandLines package) := by
    rw [lines, if_neg (by simpa using nonempty)]
  have cut : Text.lines (source package commands) =
      header ++ commands.flatMap (commandLines package) := by
    rw [source, body]
    refine lines_join ?_ ?_
    · simp [header]
    · rw [List.forall_mem_append]
      refine ⟨unbroken_header, ?_⟩
      intro line hline
      obtain ⟨command, hcommand, hline⟩ := List.mem_flatMap.mp hline
      exact unbroken_commandLines package (named command hcommand) line hline
  refine ⟨cut, ?_⟩
  rw [read?, cut, List.dropPrefix?_append_of_beq _ (beq_self_eq_true _)]
  exact mapM_statement?_flatMap lone package

/-- The source of the registrations of some commands that a compiler has accepted has, after the
header, for each of them a line for its name, one for each of its flags and one for the command, and
these are read back as what was compiled.  Descriptions, help texts and defaults are any texts;
half a surrogate pair, where a text has one, is read back as its code point. -/
theorem read?_source {schemas : List (Schema × Path)} {commands : List Compiled}
    (lone : ∀ given ∈ schemas, Quoted.Lone given.1.lone)
    (accepted : ∀ command ∈ commands, command ∈ (Compiler.fresh.compileAll schemas).commands)
    (nonempty : commands ≠ []) (package : String) :
    Text.lines (source package commands) =
        header ++ commands.flatMap (commandLines package) ∧
      read? (source package commands) = some (commands.flatMap (statements package)) := by
  have checked := (Compiler.consistent_compileAll schemas).checked
  refine read?_source_of_named ?_ (fun c hc => (checked c (accepted c hc)).name) nonempty package
  intro command hcommand
  rcases Compiler.given_of_mem_compileAll (accepted command hcommand) with none | given
  · cases none
  · exact lone _ given

/-- The registrations of every project are read back so.  Its schemas share their stand-ins, which
stand for halves of surrogate pairs, and every character in use in the documents stands for
itself. -/
theorem read?_source_of_project (files : Files) (project : Path) (package : String) :
    let commands := (Compiler.fresh.compileProject files project).compiler.commands
    (commands ≠ [] → Text.lines (source package commands) =
        header ++ commands.flatMap (commandLines package) ∧
      read? (source package commands) = some (commands.flatMap (statements package))) ∧
    ∃ documents, (∀ command ∈ commands, command.schema.lone = Json.standIns documents) ∧
      ∀ c ∈ Json.joinUnits [] (documents.flatMap fun cs => Json.unitsOf cs []),
        (Json.standIns documents).code? c = none := by
  intro commands
  obtain ⟨documents, schemas, skipped, shared, ran⟩ :=
    Compiler.ran_compileProject Compiler.fresh files project
  have accepted : commands = (Compiler.fresh.compileAll schemas).commands := by
    show (Compiler.fresh.compileProject files project).compiler.commands = _
    rw [ran]
  have lone : ∀ command ∈ commands, command.schema.lone = Json.standIns documents := by
    intro command hcommand
    rcases Compiler.given_of_mem_compileAll (accepted ▸ hcommand) with none | given
    · cases none
    · exact shared _ given
  refine ⟨fun nonempty => ?_, documents, lone, fun c => Quoted.code?_standIns⟩
  refine read?_source_of_named ?_ ?_ nonempty package
  · intro command hcommand
    rw [lone command hcommand]
    exact Quoted.lone_standIns documents
  · intro command hcommand
    exact ((Compiler.consistent_compileAll schemas).checked command (accepted ▸ hcommand)).name

def remark : Schema × Path :=
  ({ name := "say-it"
     description := "Say \"it's\",\r\nthen \\ and )"
     args := [{ name := "word", short := "w", default := "'\x07\u2028", help := "\t\"\"\"" }]
     source := none },
    ⟨0, ["say-it", "main.py"]⟩)

theorem read?_source_remark :
    (∀ given ∈ [remark], Quoted.Lone given.1.lone) ∧
      (Compiler.fresh.compileAll [remark]).commands ≠ [] ∧
      Text.lines (source "_commands" (Compiler.fresh.compileAll [remark]).commands) =
        header ++ (Compiler.fresh.compileAll [remark]).commands.flatMap
          (commandLines "_commands") ∧
      read? (source "_commands" (Compiler.fresh.compileAll [remark]).commands) =
        some ((Compiler.fresh.compileAll [remark]).commands.flatMap (statements "_commands")) := by
  have lone : ∀ given ∈ [remark], Quoted.Lone given.1.lone := by
    intro given hgiven
    rw [List.mem_singleton.mp hgiven]
    exact Quoted.lone_nil
  have nonempty : (Compiler.fresh.compileAll [remark]).commands ≠ [] := List.cons_ne_nil _ _
  exact ⟨lone, nonempty, read?_source lone (fun _ h => h) nonempty "_commands"⟩

end Toolsmith.Registrations
