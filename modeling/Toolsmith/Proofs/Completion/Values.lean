import Toolsmith.Proofs.Artifact.Scopes
import Toolsmith.Proofs.Completion.Model
import Toolsmith.Proofs.Flag.Supply
import Toolsmith.Proofs.Flag.ValueType
/-!
# Offered values on the command line

Completion offers words in the place of a value for the flags that are true or false and for those
with choices.  A choice is what the parser takes for the value, unless it begins with a dash; a flag
that is true or false takes no value from the next token, whatever is offered there
(`parse_offered`).
-/

namespace Toolsmith

open Completion

/-! ## 1. Flags that offer words -/

namespace Flag

theorem offer?_eq_words_iff {d : Definition} {words : List String} :
    d.flag.offer? = some (.words words) ↔
      d.type = .boolean ∧ words = ["true", "false"] ∨ d.type = .choice words := by
  unfold offer?
  rw [d.type_eq]
  cases d.type <;> simp [eq_comm]

theorem long_eq_of_spellings_eq {a b : Flag} (same : a.spellings = b.spellings) :
    a.long = b.long := by
  have first : ∀ flag : Flag, flag.spellings.head? = some ("--" ++ flag.long) := by
    intro flag
    unfold spellings spellingsOf
    split <;> rfl
  have longs := congrArg List.head? same
  rw [first, first, Option.some.injEq, ← String.toList_inj, String.toList_append,
    String.toList_append] at longs
  exact String.toList_inj.mp (List.append_cancel_left longs)

end Flag

namespace Registrations

section

variable {schemas : List (Schema × Path)} {package name version description : String}
  {completions : Table String} {colour : Bool} {app : Application}
  (performed : perform package (Compiler.fresh.compileAll schemas).commands
    (.fresh name version description completions colour) = .ok app) {c : Compiled}
  (hc : c ∈ (Compiler.fresh.compileAll schemas).commands)

include hc

theorem offer?_of_mem_slots {program : String} {model : Completion}
    (offered : Completion.ofCatalogue (Compiler.fresh.compileAll schemas).catalogue program =
      .ok model) {topic : Topic} (htopic : topic ∈ model.topics)
    (named : topic.name = c.schema.name) {flag : Flag} (own : flag ∈ c.flags) {offer : Offer}
    (slot : ⟨flag.spellings, offer⟩ ∈ topic.slots) : flag.offer? = some offer := by
  obtain rfl := Compiler.topic_eq_of_name_eq offered hc htopic named
  obtain ⟨flag', hflag', slot'⟩ := List.mem_filterMap.mp slot
  obtain ⟨offer', offers, same⟩ := Option.map_eq_some_iff.mp slot'
  obtain ⟨spellings, rfl⟩ := Slot.mk.inj same
  have longs := (Compiler.consistent_compileAll schemas).longs_nodup hc
  have : flag' = flag :=
    List.inj_on_of_nodup_map longs hflag' own (Flag.long_eq_of_spellings_eq spellings)
  rw [← this]
  exact offers

omit hc
include performed

-- A built-in flag takes no value, so no flag with choices has its name.
theorem long_ne_of_mem_builtins {command : String} {d : Definition}
    (hd : d ∈ app.flags.visible command) {choices : List String} (type : d.type = .choice choices) :
    ∀ flag ∈ Flag.builtins, flag.long ≠ d.flag.long := by
  intro flag hflag same
  have seen : flag ∈ (app.flags.visible command).map Definition.flag := by
    rw [visible_of_perform performed]
    exact List.mem_append_left _ hflag
  obtain ⟨e, he, rfl⟩ := List.mem_map.mp seen
  have built := built_of_perform Registry.built_withShell performed
  obtain rfl := built.apart.eq_of_long_eq he hd same
  have word : e.flag.type = "none" := by
    have all : ∀ flag ∈ Flag.builtins, flag.type = "none" := by decide
    exact all e.flag hflag
  have read := e.type_eq
  rw [word, type, show ValueType.ofText "none" = .ok .switch from rfl] at read
  cases read

-- The one group of an application has built-in flags.
theorem ungrouped_of_choice {command : String} {d : Definition}
    (hd : d ∈ app.flags.visible command) {choices : List String} (type : d.type = .choice choices) :
    ∀ longs ∈ app.flags.groups.values, d.flag.long ∉ longs := by
  have apart := long_ne_of_mem_builtins performed hd type
  have builtin : ∀ longs ∈ Registry.withShell.groups.values, ∀ long ∈ longs,
      ∃ flag ∈ Flag.builtins, flag.long = long := by decide
  rw [groups_of_perform performed]
  intro longs hlongs hlong
  obtain ⟨flag, hflag, same⟩ := builtin longs hlongs _ hlong
  exact apart flag hflag same

include hc

/-- What is offered in the place of a flag's value and what the command line makes of it, for a
spelling whose key denotes the flag.  A choice without a dash in front is stored, whatever the other
tokens are that supply the rest, and adds no positional argument.  A flag that is true or false
becomes true, and the word is a positional argument.  A choice with a dash in front is read as a
token of its own. -/
theorem parse_offered {program : String} {model : Completion}
    (offered : Completion.ofCatalogue (Compiler.fresh.compileAll schemas).catalogue program =
      .ok model) {topic : Topic} (htopic : topic ∈ model.topics)
    (named : topic.name = c.schema.name) {d : Definition} (own : d.flag ∈ c.flags)
    {words : List String} (slot : ⟨d.flag.spellings, .words words⟩ ∈ topic.slots)
    {spelling : String} (hspelling : spelling ∈ d.flag.spellings)
    (denotes : ∀ key, Token.ofText spelling = .bare key →
      resolve app.flags.definitions c.schema.name key = .ok d)
    {word : String} (hword : word ∈ words) (files : Files) (before after : List String) :
    (d.type ≠ .boolean → isDashed word = false →
        ∀ reading, app.flags.Supplied files c.schema.name d before after reading →
          ∃ registry,
            app.flags.parse files c.schema.name (before ++ spelling :: word :: after) =
                (registry, none) ∧
              registry.values.get? d.flag.long = some word ∧
              registry.positionals = reading.positionals ∧
              ∀ long ≠ d.flag.long, registry.values.get? long = reading.values.get? long) ∧
      (d.type = .boolean →
        app.flags.pass files c.schema.name (before ++ spelling :: word :: after) =
          Reading.followedBy (app.flags.pass files c.schema.name before) fun reading =>
            Reading.scan files app.flags.definitions c.schema.name after
              ⟨reading.values.put d.flag.long "true", reading.positionals ++ [word]⟩) ∧
      (isDashed word = true →
        app.flags.pass files c.schema.name (before ++ spelling :: word :: after) =
          Reading.followedBy (app.flags.pass files c.schema.name before) fun reading =>
            Reading.followedBy (reading.store files d "true")
              (Reading.scan files app.flags.definitions c.schema.name (word :: after))) := by
  have built := built_of_perform Registry.built_withShell performed
  have checked := (Compiler.consistent_compileAll schemas).checked c hc
  have spellable := (Compiler.spelled_of_mapM_checkArg checked.flags own).1
  obtain ⟨key, -, shape⟩ := spellable.ofText hspelling
  have resolved := denotes key shape
  have offers := Flag.offer?_eq_words_iff.mp
    (offer?_of_mem_slots hc offered htopic named own slot)
  refine ⟨?_, ?_, ?_⟩
  · intro other undashed reading supplied
    have type : d.type = .choice words := by
      rcases offers with ⟨boolean, -⟩ | type
      · exact absurd boolean other
      · exact type
    have takes : d.type.takesValue = true := by
      rw [type]
      rfl
    have accepted : accept files d.flag.long d.type word = .ok word := by
      have choice : Check.isChoice word words = true := List.contains_iff_mem.mpr hword
      rw [type, accept, if_pos choice]
    have ne : word ≠ "" := ValueType.ne_empty_of_mem_choices (type ▸ d.type_eq) word hword
    have hd : d ∈ app.flags.visible c.schema.name := Registry.mem_visible_of_resolve resolved
    exact built.parse_of_supplied shape resolved takes undashed accepted ne
      (ungrouped_of_choice performed hd type) supplied
  · intro boolean
    have truth : word = "true" ∨ word = "false" := by
      rcases offers with ⟨-, rfl⟩ | type
      · simpa using hword
      · rw [boolean] at type
        cases type
    have positional : Token.ofText word = .positional := by
      rcases truth with rfl | rfl <;> rfl
    have taken : d.taken (word :: after) = ("true", word :: after) := by
      simp [Definition.taken, boolean, ValueType.takesValue]
    have accepted : accept files d.flag.long .boolean "true" = .ok "true" := rfl
    rw [Registry.pass_append shape resolved, taken]
    refine congrArg (Reading.followedBy _) (funext ?_)
    intro reading
    rw [Reading.store, boolean, accepted]
    exact Reading.scan_positional positional after _
  · intro dashed
    have taken : d.taken (word :: after) = ("true", word :: after) := by
      simp [Definition.taken, dashed]
    rw [Registry.pass_append shape resolved, taken]

end

def toneGreeting : Schema × Path :=
  greeting { name := "tone", short := "t", type := "enum:warm:cold", required := true }

def toneDefinition : Definition :=
  ⟨{ long := "tone", short := "t", type := "enum:warm:cold", required := true, scope := "greet" },
    .choice ["warm", "cold"], rfl⟩

def toneCommand : Compiled := ⟨toneGreeting.1, toneGreeting.2, "greet", [toneDefinition.flag]⟩

/-- A choice between other tokens is stored. -/
theorem parse_offered_warm :
    ∃ model topic registry,
      perform "_commands" (Compiler.fresh.compileAll [toneGreeting]).commands
          (.fresh "app" "1.0.0" "" .empty false) = .ok (greeter toneDefinition) ∧
        Completion.ofCatalogue (Compiler.fresh.compileAll [toneGreeting]).catalogue "app" =
          .ok model ∧
        topic ∈ model.topics ∧ topic.name = "greet" ∧
        ⟨["--tone", "-t"], .words ["warm", "cold"]⟩ ∈ topic.slots ∧
        (greeter toneDefinition).flags.parse ⟨.directory [], []⟩ "greet"
          (["Ann"] ++ "-t" :: "warm" :: ["--quiet"]) = (registry, none) ∧
        registry.values.get? "tone" = some "warm" ∧ registry.positionals = ["Ann"] := by
  have performed : perform "_commands" (Compiler.fresh.compileAll [toneGreeting]).commands
      (.fresh "app" "1.0.0" "" .empty false) = .ok (greeter toneDefinition) := rfl
  have hc : toneCommand ∈ (Compiler.fresh.compileAll [toneGreeting]).commands :=
    List.mem_singleton.mpr rfl
  have offered := Compiler.ofCatalogue_compileAll [toneGreeting] "app"
  have htopic : toneCommand.entry.topic ∈
      (Compiler.fresh.compileAll [toneGreeting]).entries.map Catalogue.Entry.topic :=
    List.mem_map_of_mem (List.mem_append_right _ (List.mem_map_of_mem hc))
  have slot : ⟨["--tone", "-t"], .words ["warm", "cold"]⟩ ∈ toneCommand.entry.topic.slots :=
    List.mem_singleton.mpr rfl
  have denotes : ∀ key, Token.ofText "-t" = .bare key →
      resolve (greeter toneDefinition).flags.definitions "greet" key = .ok toneDefinition := by
    intro key shape
    have short : Token.ofText "-t" = .bare "t" := rfl
    obtain rfl := Token.bare.inj (short.symm.trans shape)
    rfl
  have unnamed : (greeter toneDefinition).flags.Unnamed "greet" toneDefinition ["--quiet"] := by
    intro key hkey quiet
    obtain rfl := List.mem_singleton.mp (show key ∈ ["quiet"] from hkey)
    have : Flag.quietFlag = toneDefinition.flag := congrArg Definition.flag (Except.ok.inj quiet)
    revert this
    decide
  have supplied : (greeter toneDefinition).flags.Supplied ⟨.directory [], []⟩ "greet"
      toneDefinition ["Ann"] ["--quiet"] ⟨.ofList [("quiet", "true")], ["Ann"]⟩ :=
    ⟨⟨⟨.empty, ["Ann"]⟩, rfl, rfl⟩, unnamed, by decide, rfl⟩
  have warm : "warm" ∈ ["warm", "cold"] := List.mem_cons_self
  obtain ⟨registry, parsed, stored, positionals, -⟩ :=
    (parse_offered performed hc offered htopic rfl (List.mem_singleton.mpr rfl) slot (by decide)
      denotes warm ⟨.directory [], []⟩ ["Ann"] ["--quiet"]).1 nofun rfl _ supplied
  exact ⟨_, _, registry, performed, offered, htopic, rfl, slot, parsed, stored, positionals⟩

def loudGreeting : Schema × Path := greeting { name := "loud", type := "bool" }

def loudDefinition : Definition :=
  ⟨{ long := "loud", type := "bool", scope := "greet" }, .boolean, ValueType.ofText_bool⟩

/-- The word `false`, which is offered behind `--loud`, makes the flag true. -/
theorem loud_false_sets_true :
    ∃ model topic,
      perform "_commands" (Compiler.fresh.compileAll [loudGreeting]).commands
          (.fresh "app" "1.0.0" "" .empty false) = .ok (greeter loudDefinition) ∧
        Completion.ofCatalogue (Compiler.fresh.compileAll [loudGreeting]).catalogue "app" =
          .ok model ∧
        topic ∈ model.topics ∧ topic.name = "greet" ∧
        ⟨["--loud"], .words ["true", "false"]⟩ ∈ topic.slots ∧
        (greeter loudDefinition).flags.outcome ⟨.directory [], []⟩ "greet" ["--loud", "false"] =
          (⟨.ofList [("loud", "true")], ["false"]⟩, none) := by
  have offered := Compiler.ofCatalogue_compileAll [loudGreeting] "app"
  let command : Compiled := ⟨loudGreeting.1, loudGreeting.2, "greet", [loudDefinition.flag]⟩
  have hc : command ∈ (Compiler.fresh.compileAll [loudGreeting]).commands :=
    List.mem_singleton.mpr rfl
  exact ⟨_, command.entry.topic, rfl, offered,
    List.mem_map_of_mem (List.mem_append_right _ (List.mem_map_of_mem hc)), rfl,
    List.mem_singleton.mpr rfl, rfl⟩

end Registrations

end Toolsmith
