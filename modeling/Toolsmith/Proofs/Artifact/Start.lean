import Toolsmith.Artifact.Start
import Toolsmith.Proofs.Command.Registry
import Toolsmith.Proofs.Flag.Spelling
import Toolsmith.Proofs.Flag.ValueType
import Toolsmith.Proofs.Schema.Compiler
/-!
# Starting compiled commands

An artifact registers flags and commands by turns, but neither registry looks at the other, so the
outcome is that of registering all flags and, apart from them, all commands
(`perform_eq_ok_iff`).  What a compiler has accepted therefore never fails to register
(`perform_compileAll`): its own registry has met the same flags, and its names are all different.
That does not mean that every flag can be reached by all its spellings
(`reached_compileAll_iff`).  The type of a flag, which the compiler writes, is read again, and this
gives the type that the schema declared (`types_read_again`).
-/

namespace Toolsmith.Registrations

/-! ## 1. Flags and commands apart -/

theorem performFlags_eq_ok_iff {flags : List Flag} {app app' : Application} :
    performFlags flags app = .ok app' ↔
      ∃ registry, flags.foldlM Registry.register app.flags = .ok registry ∧
        app' = { app with flags := registry } := by
  rw [performFlags, bind_eq_ok_iff]
  simp [pure, Except.pure, eq_comm]

theorem performCommand_eq_ok_iff {package : String} {command : Compiled}
    {app app' : Application} :
    performCommand package app command = .ok app' ↔
      ∃ registry, command.flags.foldlM Registry.register app.flags = .ok registry ∧
        ∃ commands, app.commands.register (commandOf package command) = .ok commands ∧
          app' = { app with flags := registry, commands := commands } := by
  rw [performCommand, bind_eq_ok_iff]
  constructor
  · rintro ⟨next, first, h⟩
    obtain ⟨registry, registered, rfl⟩ := performFlags_eq_ok_iff.mp first
    obtain ⟨commands, entered, h⟩ := bind_eq_ok_iff.mp h
    cases h
    exact ⟨registry, registered, commands, entered, rfl⟩
  · rintro ⟨registry, registered, commands, entered, rfl⟩
    exact ⟨_, performFlags_eq_ok_iff.mpr ⟨registry, registered, rfl⟩,
      bind_eq_ok_iff.mpr ⟨commands, entered, rfl⟩⟩

/-- Commands are registered with an application if all their flags are, one after another, and
all of them are. -/
theorem perform_eq_ok_iff {package : String} {commands : List Compiled}
    {app app' : Application} :
    perform package commands app = .ok app' ↔
      ∃ registry,
        (commands.flatMap Compiled.flags).foldlM Registry.register app.flags = .ok registry ∧
          ∃ registered,
            (commands.map (commandOf package)).foldlM Commands.register app.commands =
              .ok registered ∧
            app' = { app with flags := registry, commands := registered } := by
  rw [perform]
  induction commands generalizing app with
  | nil => simp [pure, Except.pure, eq_comm]
  | cons command commands ih =>
    rw [List.foldlM_cons, bind_eq_ok_iff, List.flatMap_cons, List.foldlM_append, List.map_cons,
      List.foldlM_cons]
    constructor
    · rintro ⟨next, first, rest⟩
      obtain ⟨middle, flags, entered, command, rfl⟩ := performCommand_eq_ok_iff.mp first
      obtain ⟨registry, others, registered, later, rfl⟩ := ih.mp rest
      exact ⟨registry, bind_eq_ok_iff.mpr ⟨middle, flags, others⟩, registered,
        bind_eq_ok_iff.mpr ⟨entered, command, later⟩, rfl⟩
    · rintro ⟨registry, flags, registered, entered, rfl⟩
      obtain ⟨middle, flags, others⟩ := bind_eq_ok_iff.mp flags
      obtain ⟨entered, command, later⟩ := bind_eq_ok_iff.mp entered
      exact ⟨_, performCommand_eq_ok_iff.mpr ⟨middle, flags, entered, command, rfl⟩,
        ih.mpr ⟨registry, others, registered, later, rfl⟩⟩

theorem built_of_perform {package : String} {commands : List Compiled} {app app' : Application}
    (built : app.flags.Built) (performed : perform package commands app = .ok app') :
    app'.flags.Built := by
  obtain ⟨registry, flags, registered, -, rfl⟩ := perform_eq_ok_iff.mp performed
  exact built.foldlM flags

/-! ## 2. What a compiler has accepted -/

/-- Whatever schemas a compiler is given, the commands that it accepts register with a fresh
application.  The flags are then the built-in ones, that of the completion command and those of
the accepted commands, and the commands are the built-in and the accepted ones. -/
theorem perform_compileAll (schemas : List (Schema × Path))
    (package name version description : String) (completions : Table String) (colour : Bool) :
    ∃ app,
      perform package (Compiler.fresh.compileAll schemas).commands
          (.fresh name version description completions colour) = .ok app ∧
        app.flags.definitions.map Definition.flag =
          Flag.builtins ++ [Flag.shellFlag] ++
            (Compiler.fresh.compileAll schemas).commands.flatMap Compiled.flags ∧
        app.commands.registered =
          Application.builtinCommands.registered ++
            (Compiler.fresh.compileAll schemas).commands.map (commandOf package) ∧
        app.commands.registered.map Command.name =
          ["help", "version", "commands", "completion"] ++
            (Compiler.fresh.compileAll schemas).names := by
  have h := Compiler.consistent_compileAll schemas
  obtain ⟨registry, flags, defined⟩ := h.foldlM_register
  -- The names that the compiler has listed are the built-in ones and then the accepted ones.
  have nodup := h.nodup
  rw [h.listed, List.nodup_append] at nodup
  obtain ⟨-, nodup, apart⟩ := nodup
  have names : ((Compiler.fresh.compileAll schemas).commands.map (commandOf package)).map
      Command.name = (Compiler.fresh.compileAll schemas).names := by
    rw [List.map_map]
    rfl
  refine ⟨_, perform_eq_ok_iff.mpr ⟨registry, flags, _,
    Commands.foldlM_register_eq_ok_iff.mpr ⟨?_, ?_, rfl⟩, rfl⟩, defined, rfl, ?_⟩
  · intro command hcommand taken
    refine apart command.name taken command.name ?_ rfl
    rw [← names]
    exact List.mem_map_of_mem hcommand
  · rw [names]
    exact nodup
  · rw [List.map_append, names]
    rfl

/-! ## 3. Spellings -/

section

variable {schemas : List (Schema × Path)} {package name version description : String}
  {completions : Table String} {colour : Bool} {app : Application}
  (performed : perform package (Compiler.fresh.compileAll schemas).commands
    (.fresh name version description completions colour) = .ok app)
include performed

theorem definitions_of_perform :
    app.flags.definitions.map Definition.flag =
      Flag.builtins ++ Flag.shellFlag ::
        (Compiler.fresh.compileAll schemas).commands.flatMap Compiled.flags := by
  obtain ⟨registry, flags, registered, -, rfl⟩ := perform_eq_ok_iff.mp performed
  obtain ⟨registry', flags', defined⟩ := (Compiler.consistent_compileAll schemas).foldlM_register
  obtain rfl : registry = registry' := Except.ok.inj (flags.symm.trans flags')
  rw [defined, List.append_assoc, List.singleton_append]

theorem spellable_of_perform {d : Definition} (hd : d ∈ app.flags.definitions) :
    d.flag.Spellable := by
  -- A flag of the application is a built-in one or comes from an accepted command.
  have member : d.flag ∈ app.flags.definitions.map Definition.flag := List.mem_map_of_mem hd
  rw [definitions_of_perform performed, ← List.singleton_append, ← List.append_assoc,
    List.mem_append] at member
  rcases member with given | compiled
  · have named : ∀ flag ∈ Flag.builtins ++ [Flag.shellFlag], Check.isName flag.long = true ∧
        (flag.short ≠ "" → Compiler.isShortName flag.short = true) := by
      decide
    exact Compiler.spellable_of_isName (named d.flag given).1 (named d.flag given).2
  · obtain ⟨command, hcommand, hflag⟩ := List.mem_flatMap.mp compiled
    have checked := (Compiler.consistent_compileAll schemas).checked command hcommand
    exact (Compiler.spelled_of_mapM_checkArg checked.flags hflag).1

end

/-- In an application with the commands that a compiler has accepted, a flag that a command sees is
reached by all its spellings if and only if neither the short name of a visible flag before it
is its long name, nor the long name of one its short name. -/
theorem reached_compileAll_iff {schemas : List (Schema × Path)}
    {package name version description : String} {completions : Table String} {colour : Bool}
    {app : Application}
    (performed : perform package (Compiler.fresh.compileAll schemas).commands
      (.fresh name version description completions colour) = .ok app)
    {command : String} {before after : List Definition} {d : Definition}
    (seen : app.flags.visible command = before ++ d :: after) :
    app.flags.Reached command d ↔
      ∀ older ∈ before, older.flag.short ≠ d.flag.long ∧
        (d.flag.short ≠ "" → older.flag.long ≠ d.flag.short) := by
  have hd : d ∈ app.flags.visible command := by
    rw [seen]
    exact List.mem_append_right before List.mem_cons_self
  exact (built_of_perform Registry.built_withShell performed).reached_iff
    (spellable_of_perform performed (Registry.mem_visible.mp hd).1) seen

def greeting (arg : Arg) : Schema × Path :=
  ({ name := "greet", description := "Greet someone", args := [arg], source := none },
    ⟨0, ["greet", "main.py"]⟩)

def greeter (d : Definition) : Application :=
  { Application.fresh "app" "1.0.0" "" .empty false with
    flags := { Registry.withShell with
      definitions := Registry.withShell.definitions ++ [d] }
    commands := { Application.builtinCommands with
      registered := Application.builtinCommands.registered ++
        [⟨"greet", "Greet someone",
          some ⟨none, .deferred ⟨"greet", "_commands.greet", "cmd_greet"⟩⟩⟩] } }

def nameDefinition : Definition := ⟨{ long := "name", short := "n", scope := "greet" }, .text, rfl⟩

/-- A flag whose long name is the short name of the flag that asks for help. -/
def hDefinition : Definition := ⟨{ long := "h", scope := "greet" }, .text, rfl⟩

theorem reached_greeter_name :
    perform "_commands"
        (Compiler.fresh.compileAll [greeting { name := "name", short := "n" }]).commands
        (.fresh "app" "1.0.0" "" .empty false) = .ok (greeter nameDefinition) ∧
      (greeter nameDefinition).flags.visible "greet" =
        Registry.builtinDefinitions ++ nameDefinition :: [] ∧
      (greeter nameDefinition).flags.Reached "greet" nameDefinition := by
  have performed : perform "_commands"
      (Compiler.fresh.compileAll [greeting { name := "name", short := "n" }]).commands
      (.fresh "app" "1.0.0" "" .empty false) = .ok (greeter nameDefinition) := rfl
  have seen : (greeter nameDefinition).flags.visible "greet" =
      Registry.builtinDefinitions ++ nameDefinition :: [] := rfl
  exact ⟨performed, seen, (reached_compileAll_iff performed seen).mpr (by decide)⟩

/-- A long name of one letter that is the short name of a built-in flag sets the built-in flag. -/
theorem h_sets_help :
    perform "_commands" (Compiler.fresh.compileAll [greeting { name := "h" }]).commands
        (.fresh "app" "1.0.0" "" .empty false) = .ok (greeter hDefinition) ∧
      hDefinition ∈ (greeter hDefinition).flags.visible "greet" ∧
      resolve (greeter hDefinition).flags.definitions "greet" "h" =
        .ok ⟨Flag.helpFlag, .switch, rfl⟩ ∧
      ((greeter hDefinition).flags.parse ⟨.directory [], []⟩ "greet" ["--h=1"]).1.values =
        .ofList [("help", "1")] ∧
      ¬(greeter hDefinition).flags.Reached "greet" hDefinition := by
  have help : resolve (greeter hDefinition).flags.definitions "greet" "h" =
      .ok ⟨Flag.helpFlag, .switch, rfl⟩ := rfl
  refine ⟨rfl, by decide, help, rfl, ?_⟩
  intro reached
  have own := reached.resolved "h" rfl
  rw [help] at own
  have : Flag.helpFlag = hDefinition.flag := congrArg Definition.flag (Except.ok.inj own)
  revert this
  decide

/-! ## 4. Types -/

theorem exists_definition_of_perform {schemas : List (Schema × Path)}
    {package name version description : String} {completions : Table String} {colour : Bool}
    {app : Application}
    (performed : perform package (Compiler.fresh.compileAll schemas).commands
      (.fresh name version description completions colour) = .ok app)
    {command : Compiled} (hcommand : command ∈ (Compiler.fresh.compileAll schemas).commands)
    {flag : Flag} (hflag : flag ∈ command.flags) :
    ∃ d ∈ app.flags.definitions, d.flag = flag := by
  refine List.mem_map.mp ?_
  rw [definitions_of_perform performed]
  exact List.mem_append_right _
    (List.mem_cons_of_mem _ (List.mem_flatMap.mpr ⟨command, hcommand, hflag⟩))

/-- The normal form of a declared type declares the type again, so it is its own normal form.  A
text with the mark of choices declares the pieces behind it that are not empty, and no choice has a
colon in it.  The compiler writes types in their normal form, and so a flag of a started application
has the type that its schema declares. -/
theorem types_read_again :
    (∀ s type, ValueType.ofText s = .ok type →
        ValueType.ofText type.toText = .ok type ∧
          ∀ choice ∈ type.choices, ':' ∉ choice.toList) ∧
      (∀ s normal, (ValueType.ofText s).map ValueType.toText = .ok normal →
        (ValueType.ofText normal).map ValueType.toText = .ok normal) ∧
      (∀ rest type, ValueType.ofText ("enum:" ++ rest) = .ok type ↔
        ∃ pieces, Text.Pieces ':' rest pieces ∧ pieces.filter (· ≠ "") ≠ [] ∧
          type = .choice (pieces.filter (· ≠ ""))) ∧
      ∀ schemas package name version description completions colour app,
        perform package (Compiler.fresh.compileAll schemas).commands
            (.fresh name version description completions colour) = .ok app →
          ∀ command ∈ (Compiler.fresh.compileAll schemas).commands,
            List.Forall₂
              (fun arg flag => flag.long = arg.name ∧ ∃ d ∈ app.flags.definitions,
                d.flag = flag ∧ flag.type = d.type.toText ∧
                  ValueType.ofText arg.type = .ok d.type)
              command.schema.args command.flags := by
  refine ⟨?_, ?_, fun _ _ => ValueType.ofText_mark_append_eq_ok_iff, ?_⟩
  · intro s type read
    exact ⟨ValueType.ofText_normal read, ValueType.colon_not_mem_of_mem_choices read⟩
  · intro s normal written
    obtain ⟨type, read, rfl⟩ := map_eq_ok_iff.mp written
    exact map_eq_ok_iff.mpr ⟨type, ValueType.ofText_normal read, rfl⟩
  · intro schemas package name version description completions colour app performed command
      hcommand
    have checked := mapM_eq_ok_iff.mp
      ((Compiler.consistent_compileAll schemas).checked command hcommand).flags
    have defined : ∀ flag ∈ command.flags, ∃ d ∈ app.flags.definitions, d.flag = flag :=
      fun flag hflag => exists_definition_of_perform performed hcommand hflag
    refine ((List.forall₂_and_left _ _).mpr ⟨defined, checked.flip⟩).flip.imp ?_
    rintro arg flag ⟨⟨d, hd, rfl⟩, accepted⟩
    -- What the compiler has written is read once more when the flag is registered.
    obtain ⟨-, -, type, read, -, default, -, written⟩ := Compiler.checkArg_eq_ok_iff.mp accepted
    have normal : d.flag.type = type.toText := by rw [written]
    have again := d.type_eq
    rw [normal, ValueType.ofText_normal read] at again
    obtain rfl : type = d.type := Except.ok.inj again
    exact ⟨by rw [written], d, hd, rfl, normal, read⟩

def sizeDefinition : Definition :=
  ⟨{ long := "size", type := "enum:s:xl", scope := "greet" }, .choice ["s", "xl"], rfl⟩

/-- Empty choices are left out when the schema is compiled, and the rest is the same in the
application. -/
theorem types_read_again_size :
    ValueType.ofText "enum:s::xl:" = .ok (.choice ["s", "xl"]) ∧
      ValueType.ofText "enum:s:xl" = .ok (.choice ["s", "xl"]) ∧
      perform "_commands"
          (Compiler.fresh.compileAll
            [greeting { name := "size", type := "enum:s::xl:" }]).commands
          (.fresh "app" "1.0.0" "" .empty false) = .ok (greeter sizeDefinition) ∧
      ∀ command ∈ (Compiler.fresh.compileAll
          [greeting { name := "size", type := "enum:s::xl:" }]).commands,
        List.Forall₂
          (fun arg flag => flag.long = arg.name ∧
            ∃ d ∈ (greeter sizeDefinition).flags.definitions,
              d.flag = flag ∧ flag.type = d.type.toText ∧ ValueType.ofText arg.type = .ok d.type)
          command.schema.args command.flags := by
  obtain ⟨stable, -, -, kept⟩ := types_read_again
  have read : ValueType.ofText "enum:s::xl:" = .ok (.choice ["s", "xl"]) := rfl
  have performed : perform "_commands"
      (Compiler.fresh.compileAll
        [greeting { name := "size", type := "enum:s::xl:" }]).commands
      (.fresh "app" "1.0.0" "" .empty false) = .ok (greeter sizeDefinition) := rfl
  exact ⟨read, (stable _ _ read).1, performed, kept _ _ _ _ _ _ _ _ performed⟩

end Toolsmith.Registrations
