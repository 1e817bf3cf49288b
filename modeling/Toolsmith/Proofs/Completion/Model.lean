import Toolsmith.Completion.Model
import Toolsmith.Proofs.Completion.Catalogue
import Toolsmith.Proofs.Schema.Compiler
/-!
# Completion after a run of the compiler

The catalogue that a compiler has in the end is the one in which its accepted commands have been
entered (`Compiler.records_compileAll`), and what completion makes of such a catalogue can be said
in terms of the commands alone (`Catalogue.Records.ofCatalogue_eq`).  So completion knows the
commands and flags that have been compiled, in their order, and nothing of the schemas that were
refused (`completion_compileAll`).
-/

namespace Toolsmith

open Completion

/-! ## 1. One flag -/

namespace Flag

def offer? (flag : Flag) : Option Offer :=
  match ValueType.ofText flag.type with
  | .ok .boolean => some (.words ["true", "false"])
  | .ok .path => some .files
  | .ok (.choice choices) => some (.words choices)
  | _ => none

def slot? (flag : Flag) : Option Slot := flag.offer?.map (Slot.mk flag.spellings)

def described (flag : Flag) : List Spelling :=
  flag.spellings.map fun text => ⟨text, describedBy flag.long flag.help, flag.slot?⟩

/-- Whether the type of a flag can be read. -/
def Typed (flag : Flag) : Prop := ∃ type, ValueType.ofText flag.type = .ok type

theorem words_described (flag : Flag) : flag.described.map Spelling.text = flag.spellings := by
  rw [described, List.map_map]
  exact List.map_id _

theorem words_flatMap_described (flags : List Flag) :
    (flags.flatMap described).map Spelling.text = flags.flatMap spellings := by
  rw [List.map_flatMap]
  exact congrArg (List.flatMap · flags) (funext words_described)

theorem Typed.entryOf_eq {flag : Flag} (typed : flag.Typed) :
    entryOf flag.long flag.short flag.type flag.help = .ok (flag.described, flag.slot?) := by
  obtain ⟨type, read⟩ := typed
  have slot : slotOf (spellingsOf flag.long flag.short) flag.type = .ok flag.slot? := by
    rw [slotOf, read, slot?, offer?, read]
    cases type <;> rfl
  rw [entryOf, slot]
  rfl

end Flag

theorem Flag.typed_builtins : ∀ flag ∈ Flag.builtins, flag.Typed := by
  have switch : Flag.Typed { long := "", type := "none" } := ⟨.switch, rfl⟩
  intro flag hflag
  simp only [Flag.builtins, List.mem_cons, List.not_mem_nil, or_false] at hflag
  rcases hflag with rfl | rfl | rfl | rfl | rfl <;> exact switch

theorem Catalogue.typed_builtinEntries :
    ∀ e ∈ builtinEntries, ∀ flag ∈ e.flags, flag.Typed := by
  intro e he flag hflag
  obtain ⟨b, -, rfl⟩ := List.mem_map.mp he
  dsimp only at hflag
  split at hflag
  · obtain rfl := List.mem_singleton.mp hflag
    exact ⟨.choice ["bash", "zsh"], rfl⟩
  · cases hflag

/-! ## 2. Whole catalogues -/

namespace Catalogue

def Entry.topic (e : Entry) : Topic where
  name := e.name
  description := e.description
  spellings := e.flags.flatMap Flag.described
  slots := e.flags.filterMap Flag.slot?

theorem Entry.words_topic (e : Entry) : e.topic.words = e.flags.flatMap Flag.spellings :=
  Flag.words_flatMap_described e.flags

section

variable {c : Catalogue} {entries : List Entry} (h : Records c entries) (listed : Listed entries)
include h listed

theorem Records.topicOf_eq {e : Entry} (he : e ∈ entries) (typed : ∀ flag ∈ e.flags, flag.Typed) :
    topicOf c e.name = .ok e.topic := by
  have known : ∀ flag ∈ e.flags,
      flagOf c e.name flag.long = .ok (flag.described, flag.slot?) := by
    intro flag hflag
    unfold flagOf
    simp only [h.get?_flagShorts listed he hflag, h.get?_flagTypes listed he hflag,
      h.get?_flagHelp listed he hflag, Option.getD_some]
    exact (typed flag hflag).entryOf_eq
  have all : (e.flags.map Flag.long).mapM (flagOf c e.name) =
      .ok (e.flags.map fun flag => (flag.described, flag.slot?)) := mapM_map_eq_ok known
  rw [topicOf, h.flagNames listed he, all, h.get?_descriptions listed he]
  show Except.ok (Topic.mk e.name e.description _ _) = .ok (Topic.mk e.name e.description _ _)
  rw [List.flatMap_map, List.filterMap_map]
  rfl

/-- What completion offers is determined by the commands that have been entered. -/
theorem Records.ofCatalogue_eq (typed : ∀ e ∈ entries, ∀ flag ∈ e.flags, flag.Typed)
    (program : String) :
    ofCatalogue c program = .ok {
      program
      topics := entries.map Entry.topic
      globals := Flag.builtins.flatMap Flag.described } := by
  have topics : c.commands.mapM (topicOf c) = .ok (entries.map Entry.topic) := by
    rw [h.commands]
    exact mapM_map_eq_ok fun e he => h.topicOf_eq listed he (typed e he)
  have globals : (Flag.builtins.map id).mapM
      (fun flag => entryOf flag.long flag.short flag.type flag.help) =
        .ok (Flag.builtins.map fun flag => (flag.described, flag.slot?)) :=
    mapM_map_eq_ok fun flag hflag => (Flag.typed_builtins flag hflag).entryOf_eq
  rw [List.map_id] at globals
  rw [ofCatalogue, topics, h.globalFlags]
  show (do
    let globals ← Flag.builtins.mapM fun flag : Flag =>
      entryOf flag.long flag.short flag.type flag.help
    pure (Completion.mk program (entries.map Entry.topic) (globals.flatMap Prod.fst))) = _
  rw [globals]
  show Except.ok (Completion.mk program (entries.map Entry.topic) _) = _
  rw [List.flatMap_map]

end

end Catalogue

/-! ## 3. Runs of the compiler -/

def Compiled.entry (command : Compiled) : Catalogue.Entry :=
  ⟨command.schema.name, command.schema.description, command.flags⟩

namespace Compiler

/-- The commands that a compiler knows: the built-in ones, and those that it has accepted. -/
def entries (compiler : Compiler) : List Catalogue.Entry :=
  Catalogue.builtinEntries ++ compiler.commands.map Compiled.entry

-- A refused schema is not entered.
theorem catalogue_of_refused {compiler : Compiler} {schema : Schema} {handler : Path}
    {fault : SchemaFault} (refused : (compiler.compile schema handler).2 = .error fault) :
    (compiler.compile schema handler).1.catalogue = compiler.catalogue ∧
      (compiler.compile schema handler).1.commands = compiler.commands := by
  rcases compile_cases compiler schema handler with
    ⟨_, _, _, _, outcome⟩ | ⟨_, _, _, _, outcome⟩
  · rw [outcome]
    exact ⟨rfl, rfl⟩
  · rw [outcome] at refused
    cases refused

/-- The catalogue of a compiler has been filled with the accepted commands, in their order. -/
def Filled (compiler : Compiler) : Prop :=
  compiler.catalogue = (compiler.commands.map Compiled.entry).foldl Catalogue.enter .withBuiltins

theorem Filled.compile {compiler : Compiler} (h : compiler.Filled) (schema : Schema)
    (handler : Path) : (compiler.compile schema handler).1.Filled := by
  rcases compile_cases compiler schema handler with
    ⟨_, _, _, _, outcome⟩ | ⟨flags, _, _, _, outcome⟩
  · rw [outcome]
    exact h
  · rw [outcome]
    let command : Compiled := ⟨schema, handler, moduleName schema.name, flags⟩
    show compiler.catalogue.enter command.entry =
      ((compiler.commands ++ [command]).map Compiled.entry).foldl Catalogue.enter .withBuiltins
    rw [List.map_append, List.foldl_append, ← h]
    rfl

theorem filled_compileAll (schemas : List (Schema × Path)) : (fresh.compileAll schemas).Filled := by
  have run : ∀ {compiler : Compiler}, compiler.Filled → (compiler.compileAll schemas).Filled := by
    induction schemas with
    | nil => exact id
    | cons given schemas ih => exact fun h => ih (h.compile given.1 given.2)
  exact run rfl

-- A colon is not a character of a name.
theorem colon_not_mem_of_isName {name : String} (named : Check.isName name = true) :
    ':' ∉ name.toList := by
  intro colon
  have : Check.isNameChar ':' = true := Check.isNameChar_of_mem named colon
  revert this
  decide

-- Flags of one scope that have been registered beside each other have different names.
theorem Consistent.flags_apart {compiler : Compiler} (h : compiler.Consistent)
    {command : Compiled} (hcommand : command ∈ compiler.commands) :
    command.flags.Pairwise fun older flag =>
      older.long ≠ flag.long ∧ (flag.short ≠ "" → older.short ≠ flag.short) := by
  obtain ⟨added, flagsEq, within⟩ := h.flags
  have apart := (List.pairwise_append.mp (h.built.apart.sublist within)).2.1
  have all : (compiler.commands.flatMap Compiled.flags).Pairwise
      fun older flag => Flag.clash? older flag = none := by
    rw [← flagsEq, List.pairwise_map]
    exact apart
  have own := (List.pairwise_flatMap.mp all).1 command hcommand
  have scope : ∀ flag ∈ command.flags, flag.scope = command.schema.name :=
    fun flag hflag => (spelled_of_mapM_checkArg (h.checked command hcommand).flags hflag).2
  refine own.imp_of_mem ?_
  intro older flag holder hflag free
  have overlap : Flag.scopesOverlap older.scope flag.scope = true := by
    rw [scope older holder, scope flag hflag]
    simp [Flag.scopesOverlap]
  exact Flag.clash?_eq_none_iff.mp free overlap

theorem Consistent.longs_nodup {compiler : Compiler} (h : compiler.Consistent)
    {command : Compiled} (hcommand : command ∈ compiler.commands) :
    (command.flags.map Flag.long).Nodup := by
  rw [List.Nodup, List.pairwise_map]
  exact (h.flags_apart hcommand).imp fun names => names.1

theorem Consistent.map_name_entries {compiler : Compiler} (h : compiler.Consistent) :
    compiler.entries.map Catalogue.Entry.name = compiler.catalogue.commands := by
  rw [h.listed, entries, List.map_append, List.map_map]
  rfl

theorem Consistent.listed_entries {compiler : Compiler} (h : compiler.Consistent) :
    Catalogue.Listed compiler.entries := by
  constructor
  case nodup =>
    rw [h.map_name_entries]
    exact h.nodup
  case plain =>
    intro e he
    rcases List.mem_append.mp he with builtin | accepted
    · exact Catalogue.listed_builtinEntries.plain e builtin
    · obtain ⟨command, hcommand, rfl⟩ := List.mem_map.mp accepted
      exact colon_not_mem_of_isName (h.checked command hcommand).name
  case longs =>
    intro e he
    rcases List.mem_append.mp he with builtin | accepted
    · exact Catalogue.listed_builtinEntries.longs e builtin
    · obtain ⟨command, hcommand, rfl⟩ := List.mem_map.mp accepted
      exact h.longs_nodup hcommand

theorem Consistent.typed {compiler : Compiler} (h : compiler.Consistent) :
    ∀ e ∈ compiler.entries, ∀ flag ∈ e.flags, flag.Typed := by
  obtain ⟨added, flagsEq, -⟩ := h.flags
  intro e he flag hflag
  rcases List.mem_append.mp he with builtin | accepted
  · exact Catalogue.typed_builtinEntries e builtin flag hflag
  · obtain ⟨command, hcommand, rfl⟩ := List.mem_map.mp accepted
    have registered : flag ∈ added.map Definition.flag := by
      rw [flagsEq]
      exact List.mem_flatMap.mpr ⟨command, hcommand, hflag⟩
    obtain ⟨d, -, rfl⟩ := List.mem_map.mp registered
    exact ⟨d.type, d.type_eq⟩

/-- The catalogue knows the built-in commands and the accepted ones, and nothing else. -/
theorem records_compileAll (schemas : List (Schema × Path)) :
    Catalogue.Records (fresh.compileAll schemas).catalogue (fresh.compileAll schemas).entries := by
  rw [show (fresh.compileAll schemas).catalogue = _ from filled_compileAll schemas]
  exact Catalogue.records_withBuiltins.foldl_enter (consistent_compileAll schemas).listed_entries

-- An accepted flag has the long name that the schema gives it.
theorem Checked.map_long {command : Compiled} (h : Checked command) :
    command.flags.map Flag.long = command.schema.args.map Arg.name := by
  have each := mapM_eq_ok_iff.mp h.flags
  have longs : List.Forall₂ (fun arg flag => Arg.name arg = Flag.long flag) command.schema.args
      command.flags := by
    refine each.imp ?_
    intro arg flag accepted
    obtain ⟨-, -, type, -, -, default, -, rfl⟩ := checkArg_eq_ok_iff.mp accepted
    rfl
  rw [← List.forall₂_eq_eq_eq, List.forall₂_map_left_iff, List.forall₂_map_right_iff]
  exact longs.flip.imp fun _ _ same => same.symm

theorem ofCatalogue_compileAll (schemas : List (Schema × Path)) (program : String) :
    Completion.ofCatalogue (fresh.compileAll schemas).catalogue program = .ok {
      program
      topics := (fresh.compileAll schemas).entries.map Catalogue.Entry.topic
      globals := Flag.builtins.flatMap Flag.described } :=
  (records_compileAll schemas).ofCatalogue_eq (consistent_compileAll schemas).listed_entries
    (consistent_compileAll schemas).typed program

-- The name of an accepted command leads to what is offered for it.
theorem topic_eq_of_name_eq {schemas : List (Schema × Path)} {program : String}
    {model : Completion}
    (offered : Completion.ofCatalogue (fresh.compileAll schemas).catalogue program = .ok model)
    {c : Compiled} (hc : c ∈ (fresh.compileAll schemas).commands) {topic : Topic}
    (htopic : topic ∈ model.topics) (named : topic.name = c.schema.name) :
    topic = c.entry.topic := by
  rw [ofCatalogue_compileAll] at offered
  obtain rfl := Except.ok.inj offered
  obtain ⟨e, he, rfl⟩ := List.mem_map.mp htopic
  have hentry : c.entry ∈ (fresh.compileAll schemas).entries :=
    List.mem_append_right _ (List.mem_map_of_mem hc)
  have listed := (consistent_compileAll schemas).listed_entries
  rw [listed.eq_of_name_eq he hentry named]

/-- After every run of the compiler, completion offers the built-in commands and the accepted ones,
each once and in their order; for an accepted command its flags as they have been compiled, and
values in the places of those that are true or false, paths or choices.  All of it is read off the
accepted commands, and a refused schema changes nothing. -/
theorem completion_compileAll (schemas : List (Schema × Path)) (program : String) :
    let compiler := fresh.compileAll schemas
    ∃ model, Completion.ofCatalogue compiler.catalogue program = .ok model ∧
      model.names = Builtin.all.map Builtin.name ++ compiler.names ∧ model.names.Nodup ∧
      (∀ c ∈ compiler.commands,
        compiler.catalogue.flagNames c.schema.name = c.schema.args.map Arg.name ∧
          c.flags.map Flag.long = c.schema.args.map Arg.name ∧
          ∃ topic ∈ model.topics, topic.name = c.schema.name ∧
            compiler.catalogue.commandFlags.get? c.schema.name = some topic.words ∧
            topic.words = c.flags.flatMap Flag.spellings ∧
            topic.slots = c.flags.filterMap Flag.slot?) ∧
      compiler.catalogue =
        (compiler.commands.map Compiled.entry).foldl Catalogue.enter .withBuiltins ∧
      ∀ schema handler fault, (compiler.compile schema handler).2 = .error fault →
        (compiler.compile schema handler).1.catalogue = compiler.catalogue ∧
          (compiler.compile schema handler).1.commands = compiler.commands := by
  intro compiler
  have consistent : compiler.Consistent := consistent_compileAll schemas
  have records : Catalogue.Records compiler.catalogue compiler.entries := records_compileAll schemas
  have listed : Catalogue.Listed compiler.entries := consistent.listed_entries
  have names : compiler.entries.map Catalogue.Entry.name =
      Builtin.all.map Builtin.name ++ compiler.names :=
    consistent.map_name_entries.trans consistent.listed
  have topics : (compiler.entries.map Catalogue.Entry.topic).map Topic.name =
      Builtin.all.map Builtin.name ++ compiler.names := by
    rw [← names, List.map_map]
    rfl
  refine ⟨_, ofCatalogue_compileAll schemas program, topics, ?_, ?_, filled_compileAll schemas, ?_⟩
  · show ((compiler.entries.map Catalogue.Entry.topic).map Topic.name).Nodup
    rw [topics, ← names]
    exact listed.nodup
  · intro c hc
    have he : c.entry ∈ compiler.entries :=
      List.mem_append_right _ (List.mem_map_of_mem hc)
    have longs := (consistent.checked c hc).map_long
    have known := records.get?_commandFlags listed he
    have flagNames := records.flagNames listed he
    rw [← c.entry.words_topic] at known
    exact ⟨flagNames.trans longs, longs, c.entry.topic, List.mem_map_of_mem he, rfl, known,
      c.entry.words_topic, rfl⟩
  · intro schema handler fault refused
    exact catalogue_of_refused refused

end Compiler

end Toolsmith
