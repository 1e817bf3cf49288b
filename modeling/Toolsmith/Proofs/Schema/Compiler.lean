import Mathlib.Data.List.Nodup
import Toolsmith.Proofs.Flag.Reading
import Toolsmith.Schema.Compiler
/-!
# Runs of the compiler

A compiler is given schemas one after another and accepts some of them.  What a single schema can
do to it is said once (`compile_cases`), and from it what holds after every run
(`consistent_compileAll`): the names of the commands are all different, and what has been
accepted can be registered again, since its flags follow one another in the compiler's own
registry, in which no two flags clash.
-/

namespace Toolsmith

/-! ## 1. Names -/

theorem Check.ne_empty_of_isName {name : String} (h : Check.isName name = true) : name ≠ "" := by
  rintro rfl
  cases h

-- A name has letters, digits, underscores and dashes only.
theorem Check.isNameChar_of_mem {name : String} (h : Check.isName name = true) {c : Char}
    (hc : c ∈ name.toList) : Check.isNameChar c = true := by
  unfold Check.isName at h
  split at h
  next => cases h
  next first rest chars =>
    obtain ⟨letter, others⟩ := Bool.and_eq_true_iff.mp h
    rw [chars] at hc
    rcases List.mem_cons.mp hc with rfl | hc
    · have alnum : c.isAlphanum = true := by
        rw [Char.isAlphanum, Bool.or_eq_true]
        exact .inl letter
      rw [Check.isNameChar, alnum]
      rfl
    · exact List.all_eq_true.mp others c hc

namespace Compiler

theorem exists_of_isShortName {short : String} (h : isShortName short = true) :
    ∃ c, c.isAlphanum = true ∧ short.toList = [c] := by
  unfold isShortName at h
  split at h
  next c chars => exact ⟨c, h, chars⟩
  next => cases h

-- Flags with names that the compiler lets through can be told apart in a token.
theorem spellable_of_isName {flag : Flag} (long : Check.isName flag.long = true)
    (short : flag.short ≠ "" → isShortName flag.short = true) : flag.Spellable where
  named := Check.ne_empty_of_isName long
  long := by
    intro equals
    have : Check.isNameChar '=' = true := Check.isNameChar_of_mem long equals
    revert this
    decide
  short := by
    intro shorter
    obtain ⟨c, alnum, single⟩ := exists_of_isShortName (short shorter)
    refine ⟨c, ?_, single⟩
    rintro rfl
    revert alnum
    decide

/-! ## 2. Trying flags -/

-- Trying flags adds to a registry those that were not refused.
theorem registerAll_fst (flags : List Flag) (registry : Registry) :
    ∃ accepted, accepted <+: flags ∧
      accepted.foldlM Registry.register registry = .ok (registerAll flags registry).1 := by
  induction flags generalizing registry with
  | nil => exact ⟨[], List.prefix_rfl, rfl⟩
  | cons flag flags ih =>
    rw [registerAll]
    cases first : registry.register flag with
    | error fault => exact ⟨[], List.nil_prefix, rfl⟩
    | ok next =>
      obtain ⟨accepted, start, rest⟩ := ih next
      refine ⟨flag :: accepted, List.cons_prefix_cons.mpr ⟨rfl, start⟩, ?_⟩
      rw [List.foldlM_cons, first]
      exact rest

-- Nothing is refused if the flags can be registered in turn.
theorem registerAll_eq_none_iff {flags : List Flag} {registry registry' : Registry} :
    registerAll flags registry = (registry', none) ↔
      flags.foldlM Registry.register registry = .ok registry' := by
  induction flags generalizing registry with
  | nil => simp [registerAll, pure, Except.pure]
  | cons flag flags ih =>
    rw [registerAll, List.foldlM_cons]
    cases registry.register flag with
    | error fault => simp [bind, Except.bind]
    | ok next => exact ih

/-! ## 3. One schema -/

/-- A refused schema changes at most the registry, by flags that could be registered; an accepted
one passed the checks, and all its flags were registered. -/
theorem compile_cases (compiler : Compiler) (schema : Schema) (handler : Path) :
    (∃ (flags : List Flag) (registry : Registry) (fault : SchemaFault),
        flags.foldlM Registry.register compiler.registry = .ok registry ∧
        compiler.compile schema handler = ({ compiler with registry }, .error fault)) ∨
      ∃ (flags : List Flag) (registry : Registry), compiler.checkSchema schema = .ok flags ∧
        flags.foldlM Registry.register compiler.registry = .ok registry ∧
        compiler.compile schema handler =
          (accept { compiler with registry } ⟨schema, handler, moduleName schema.name, flags⟩,
            .ok ⟨schema, handler, moduleName schema.name, flags⟩) := by
  unfold compile
  cases checked : compiler.checkSchema schema with
  | error complaint => exact .inl ⟨[], compiler.registry, _, rfl, rfl⟩
  | ok flags =>
    dsimp only
    split
    next registry fault tried =>
      obtain ⟨accepted, -, registered⟩ := registerAll_fst flags compiler.registry
      rw [tried] at registered
      exact .inl ⟨accepted, registry, _, registered, rfl⟩
    next registry tried =>
      exact .inr ⟨flags, registry, rfl, registerAll_eq_none_iff.mp tried, rfl⟩

/-- A schema that passes the checks has a name that is a name and is free, and so is the name of
its module; each of its flags passes on its own. -/
theorem checkSchema_eq_ok_iff {compiler : Compiler} {schema : Schema} {flags : List Flag} :
    compiler.checkSchema schema = .ok flags ↔
      Check.isName schema.name = true ∧ schema.name ∉ compiler.catalogue.commands ∧
        (∀ c ∈ compiler.commands, c.module ≠ moduleName schema.name) ∧
        schema.args.mapM (checkArg schema.name schema.lone) = .ok flags := by
  unfold checkSchema
  dsimp only
  rw [refusal_eq_ok_iff, refusal_eq_ok_iff, refusal_eq_ok_iff]
  simp

/-- An accepted flag has a name that is a name, no short name or a letter or digit, and choices
that need no quoting; it keeps what the schema says of it, with type and default in normal form. -/
theorem checkArg_eq_ok_iff {command : String} {lone : Text.StandIns} {arg : Arg} {flag : Flag} :
    checkArg command lone arg = .ok flag ↔
      Check.isName arg.name = true ∧ (arg.short ≠ "" → isShortName arg.short = true) ∧
        ∃ type, ValueType.ofText arg.type = .ok type ∧
          (∀ choice ∈ type.choices, isUnsafeChoice choice = false) ∧
          ∃ default, checkDefault arg.name type arg.default = .ok default ∧
            flag = {
              long := arg.name
              short := arg.short
              type := type.toText
              required := arg.required
              default
              help := arg.help
              scope := command } := by
  unfold checkArg
  rw [refusal_eq_ok_iff, refusal_eq_ok_iff]
  cases read : ValueType.ofText arg.type with
  | error fault => simp [bind, Except.bind, throw, throwThe, MonadExceptOf.throw]
  | ok type =>
    simp only [pure_bind, Except.ok.injEq, exists_eq_left', Bool.not_eq_true', Bool.not_eq_false,
      Bool.and_eq_true, decide_eq_true_eq, not_and]
    -- The search for an unsafe choice comes back empty exactly if all of them are safe.
    cases found : type.choices.find? isUnsafeChoice with
    | some choice =>
      have is_unsafe : isUnsafeChoice choice = true := List.find?_some found
      have refused : ¬∀ choice ∈ type.choices, isUnsafeChoice choice = false := by
        intro safe
        rw [safe choice (List.mem_of_find?_eq_some found)] at is_unsafe
        cases is_unsafe
      simp [refused, bind, Except.bind, throw, throwThe, MonadExceptOf.throw]
    | none =>
      have safe : ∀ choice ∈ type.choices, isUnsafeChoice choice = false := by
        simpa using List.find?_eq_none.mp found
      rw [bind_eq_ok_iff]
      simp only [pure, Except.pure, Except.ok.injEq, @eq_comm _ _ flag]
      rw [and_iff_right safe]

/-- Flags that pass the checks can be told apart in a token and belong to their command. -/
theorem spelled_of_mapM_checkArg {command : String} {lone : Text.StandIns} {args : List Arg}
    {flags : List Flag} (checked : args.mapM (checkArg command lone) = .ok flags) {flag : Flag}
    (hflag : flag ∈ flags) :
    flag.Spellable ∧ flag.scope = command := by
  obtain ⟨arg, -, accepted⟩ := exists_of_mem_mapM checked hflag
  obtain ⟨long, short, type, -, -, default, -, rfl⟩ := checkArg_eq_ok_iff.mp accepted
  exact ⟨spellable_of_isName long short, rfl⟩

/-! ## 4. Runs -/

/-- The compiler after it was given schemas in turn, each with the file of its handler. -/
def compileAll (compiler : Compiler) (schemas : List (Schema × Path)) : Compiler :=
  schemas.foldl (fun compiler given => (compiler.compile given.1 given.2).1) compiler

def names (compiler : Compiler) : List String := compiler.commands.map fun c => c.schema.name

/-- What the checks ensure of an accepted command. -/
structure Checked (command : Compiled) : Prop where
  name : Check.isName command.schema.name = true
  module : command.module = moduleName command.schema.name
  flags : command.schema.args.mapM (checkArg command.schema.name command.schema.lone) =
    .ok command.flags

/-- A compiler whose parts agree.  The flags of the accepted commands follow one another in its
registry, possibly with flags of refused schemas among them. -/
structure Consistent (compiler : Compiler) : Prop where
  built : compiler.registry.Built
  listed : compiler.catalogue.commands = Builtin.all.map Builtin.name ++ compiler.names
  nodup : compiler.catalogue.commands.Nodup
  modules : (compiler.commands.map Compiled.module).Nodup
  flags : ∃ added : List Definition,
    added.map Definition.flag = compiler.commands.flatMap Compiled.flags ∧
      (Registry.withShell.definitions ++ added).Sublist compiler.registry.definitions
  checked : ∀ command ∈ compiler.commands, Checked command

theorem consistent_fresh : fresh.Consistent where
  built := Registry.built_withShell
  listed := rfl
  nodup := by decide
  modules := List.nodup_nil
  flags := ⟨[], rfl, by rw [List.append_nil]; exact List.Sublist.refl _⟩
  checked := by
    intro command hcommand
    cases hcommand

theorem commands_foldl_addFlag (name : String) (flags : List Flag) (catalogue : Catalogue) :
    (flags.foldl (fun c flag => c.addFlag name flag) catalogue).commands = catalogue.commands := by
  induction flags generalizing catalogue with
  | nil => rfl
  | cons flag flags ih => exact ih (catalogue.addFlag name flag)

@[simp] theorem commands_accept (compiler : Compiler) (command : Compiled) :
    (compiler.accept command).catalogue.commands =
      compiler.catalogue.commands ++ [command.schema.name] :=
  commands_foldl_addFlag _ _ _

/-- Whatever schema the compiler is given next, its parts still agree. -/
theorem Consistent.compile {compiler : Compiler} (h : compiler.Consistent) (schema : Schema)
    (handler : Path) : (compiler.compile schema handler).1.Consistent := by
  obtain ⟨added, flagsEq, within⟩ := h.flags
  rcases compile_cases compiler schema handler with
    ⟨flags, registry, fault, registered, outcome⟩ | ⟨flags, registry, passed, registered, outcome⟩
  · -- The flags of a refused schema stay, so the registry has grown.
    obtain ⟨more, -, -, -, rfl⟩ := Registry.foldlM_register_eq_ok_iff.mp registered
    rw [outcome]
    exact { h with
      built := h.built.foldlM registered
      flags := ⟨added, flagsEq, within.trans (List.sublist_append_left _ _)⟩ }
  · -- An accepted one adds its flags at the end, its name to the list, and its module.
    have built := h.built.foldlM registered
    obtain ⟨more, moreEq, -, -, rfl⟩ := Registry.foldlM_register_eq_ok_iff.mp registered
    obtain ⟨name, free, module, mapped⟩ := checkSchema_eq_ok_iff.mp passed
    rw [outcome]
    constructor
    case built => exact built
    case listed =>
      rw [commands_accept]
      show compiler.catalogue.commands ++ [schema.name] = _
      rw [h.listed, List.append_assoc]
      simp [accept, names]
    case nodup =>
      rw [commands_accept]
      exact List.nodup_append.mpr ⟨h.nodup, List.nodup_singleton _,
        fun a ha b hb => by rintro rfl; exact free (List.mem_singleton.mp hb ▸ ha)⟩
    case modules =>
      show (List.map Compiled.module (compiler.commands ++ [_])).Nodup
      rw [List.map_append, List.map_singleton]
      refine List.nodup_append.mpr ⟨h.modules, List.nodup_singleton _, ?_⟩
      intro a ha b hb
      obtain ⟨c, hc, rfl⟩ := List.mem_map.mp ha
      rw [List.mem_singleton.mp hb]
      exact module c hc
    case flags =>
      refine ⟨added ++ more, ?_, ?_⟩
      · show _ = (compiler.commands ++ [_]).flatMap Compiled.flags
        rw [List.map_append, flagsEq, moreEq, List.flatMap_append, List.flatMap_singleton]
      · rw [← List.append_assoc]
        exact within.append_right more
    case checked =>
      intro command hcommand
      rcases List.mem_append.mp hcommand with older | last
      · exact h.checked command older
      · rw [List.mem_singleton.mp last]
        exact ⟨name, rfl, mapped⟩

theorem Consistent.compileAll (schemas : List (Schema × Path)) :
    ∀ {compiler : Compiler}, compiler.Consistent → (compiler.compileAll schemas).Consistent := by
  induction schemas with
  | nil =>
    intro compiler h
    exact h
  | cons given schemas ih =>
    intro compiler h
    exact ih (h.compile given.1 given.2)

theorem consistent_compileAll (schemas : List (Schema × Path)) :
    (fresh.compileAll schemas).Consistent :=
  consistent_fresh.compileAll schemas

/-- The flags of the accepted commands can be registered beside the built-in ones: the compiler
has seen them, in the same order, among those of its own registry. -/
theorem Consistent.foldlM_register {compiler : Compiler} (h : compiler.Consistent) :
    ∃ registry,
      (compiler.commands.flatMap Compiled.flags).foldlM Registry.register .withShell =
          .ok registry ∧
        registry.definitions.map Definition.flag =
          Flag.builtins ++ [Flag.shellFlag] ++ compiler.commands.flatMap Compiled.flags := by
  obtain ⟨added, flagsEq, within⟩ := h.flags
  -- What does not clash in the larger registry does not clash in a part of it.
  obtain ⟨-, pairwise, apart⟩ := List.pairwise_append.mp (h.built.apart.sublist within)
  refine ⟨_, Registry.foldlM_register_eq_ok_iff.mpr ⟨added, flagsEq, apart, pairwise, rfl⟩, ?_⟩
  rw [← flagsEq, List.map_append]
  rfl

-- Every accepted command comes from a schema that the compiler was given.
theorem given_of_mem_compileAll {schemas : List (Schema × Path)} {command : Compiled} :
    ∀ {compiler : Compiler}, command ∈ (compiler.compileAll schemas).commands →
      command ∈ compiler.commands ∨ (command.schema, command.handler) ∈ schemas := by
  induction schemas with
  | nil =>
    intro compiler h
    exact .inl h
  | cons given schemas ih =>
    intro compiler h
    rcases ih h with next | later
    · dsimp only at next
      rcases compile_cases compiler given.1 given.2 with
        ⟨_, _, _, _, outcome⟩ | ⟨_, _, _, _, outcome⟩ <;> rw [outcome] at next
      · exact .inl next
      · rcases List.mem_append.mp next with older | last
        · exact .inl older
        · rw [List.mem_singleton.mp last]
          exact .inr List.mem_cons_self
    · exact .inr (List.mem_cons_of_mem _ later)

end Compiler

end Toolsmith
