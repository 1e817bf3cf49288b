import Toolsmith.Proofs.Artifact.Start
import Toolsmith.Proofs.Flag.Confinement
/-!
# Which commands see a compiled flag

The scope of a compiled flag is the name of its command, and the scope of a flag that every command
sees is a word that is a name, too.  So the flags of a command stay with it, unless it is called by
that word and declares a flag (`confined_compileAll_iff`).
-/

namespace Toolsmith.Registrations

/-- The flags that are declared for a command: the one that chooses the shell, or those of the
schema of its name. -/
def declaredFor (commands : List Compiled) (command : String) : List Flag :=
  (if command = Flag.shellFlag.scope then [Flag.shellFlag] else []) ++
    (commands.filter fun c => c.schema.name = command).flatMap Compiled.flags

section

variable {commands : List Compiled} {command : String}

theorem mem_declaredFor {c : Compiled} (hc : c ∈ commands) {flag : Flag} (hflag : flag ∈ c.flags) :
    flag ∈ declaredFor commands c.schema.name :=
  List.mem_append_right _ (List.mem_flatMap.mpr ⟨c, by simpa using hc, hflag⟩)

variable (owned : ∀ c ∈ commands, ∀ flag ∈ c.flags, flag.scope = c.schema.name)
include owned

theorem filter_scope_eq_declaredFor :
    (Flag.shellFlag :: commands.flatMap Compiled.flags).filter (fun flag => flag.scope = command) =
      declaredFor commands command := by
  have shell : [Flag.shellFlag].filter (fun flag => flag.scope = command) =
      if command = Flag.shellFlag.scope then [Flag.shellFlag] else [] := by
    by_cases completion : command = Flag.shellFlag.scope
    · simp [completion]
    · simp [completion, Ne.symm completion]
  have compiled : (commands.flatMap Compiled.flags).filter (fun flag => flag.scope = command) =
      (commands.filter fun c => c.schema.name = command).flatMap Compiled.flags := by
    induction commands with
    | nil => rfl
    | cons c commands ih =>
      obtain ⟨first, others⟩ := List.forall_mem_cons.mp owned
      rw [List.flatMap_cons, List.filter_append, ih others, List.filter_cons]
      by_cases name : c.schema.name = command
      · have all : c.flags.filter (fun flag => flag.scope = command) = c.flags := by
          refine List.filter_eq_self.mpr ?_
          intro flag hflag
          simpa using (first flag hflag).trans name
        rw [all, if_pos (by simpa using name), List.flatMap_cons]
      · have none : c.flags.filter (fun flag => flag.scope = command) = [] := by
          refine List.filter_eq_nil_iff.mpr ?_
          intro flag hflag
          simpa using (first flag hflag).trans_ne name
        rw [none, if_neg (by simpa using name), List.nil_append]
  rw [← List.singleton_append, List.filter_append, shell, compiled, declaredFor]

/-- The flags of other commands are hidden from a command, unless one of them is called by the word
for the scope of all commands and declares a flag. -/
theorem hidden_iff :
    (∀ c ∈ commands, c.schema.name ≠ command → ∀ flag ∈ c.flags,
        flag.visibleTo command = false) ↔
      command = Flag.globalScope ∨ declaredFor commands Flag.globalScope = [] := by
  constructor
  · intro hidden
    by_cases same : command = Flag.globalScope
    · exact .inl same
    · right
      rw [declaredFor, if_neg (by decide), List.nil_append, List.flatMap_eq_nil_iff]
      intro c hc
      obtain ⟨hc, all⟩ := List.mem_filter.mp hc
      have all : c.schema.name = Flag.globalScope := by simpa using all
      refine List.eq_nil_iff_forall_not_mem.mpr ?_
      intro flag hflag
      have unseen := hidden c hc (all.trans_ne (Ne.symm same)) flag hflag
      rw [Flag.visibleTo_iff.mpr (.inl ((owned c hc flag hflag).trans all))] at unseen
      cases unseen
  · intro safe c hc other flag hflag
    rw [Bool.eq_false_iff, ne_eq, Flag.visibleTo_iff, owned c hc flag hflag]
    rintro (all | same)
    · rcases safe with same | none
      · exact other (all.trans same.symm)
      · have absent := mem_declaredFor hc hflag
        rw [all, none] at absent
        cases absent
    · exact other same

-- Where no flag is declared for all commands, a command sees the flags of its scope beside the
-- built-in ones.
theorem filter_visibleTo_eq_declaredFor
    (safe : command = Flag.globalScope ∨ declaredFor commands Flag.globalScope = []) :
    (Flag.shellFlag :: commands.flatMap Compiled.flags).filter
        (fun flag => flag.visibleTo command) = declaredFor commands command := by
  rw [← filter_scope_eq_declaredFor owned]
  refine List.filter_congr ?_
  intro flag hflag
  rw [Bool.eq_iff_iff, Flag.visibleTo_iff, decide_eq_true_iff]
  refine or_iff_right_of_imp ?_
  intro all
  rcases safe with same | none
  · exact all.trans same.symm
  · have absent := List.filter_eq_nil_iff.mp
      ((filter_scope_eq_declaredFor owned).trans none) flag hflag
    exact absurd (decide_eq_true all) absent

end

-- The flags of an accepted command have its name for their scope.
theorem owned_compileAll (schemas : List (Schema × Path)) :
    ∀ c ∈ (Compiler.fresh.compileAll schemas).commands, ∀ flag ∈ c.flags,
      flag.scope = c.schema.name := by
  intro c hc flag hflag
  have checked := (Compiler.consistent_compileAll schemas).checked c hc
  exact (Compiler.spelled_of_mapM_checkArg checked.flags hflag).2

section

variable {schemas : List (Schema × Path)} {package name version description : String}
  {completions : Table String} {colour : Bool} {app : Application}
  (performed : perform package (Compiler.fresh.compileAll schemas).commands
    (.fresh name version description completions colour) = .ok app) {command : String}
include performed

theorem groups_of_perform : app.flags.groups = Registry.withShell.groups := by
  obtain ⟨registry, flags, -, -, rfl⟩ := perform_eq_ok_iff.mp performed
  obtain ⟨added, -, -, -, rfl⟩ := Registry.foldlM_register_eq_ok_iff.mp flags
  rfl

/-- A command sees the built-in flags, and of the others those of its scope or of the scope of all
commands. -/
theorem visible_of_perform :
    (app.flags.visible command).map Definition.flag =
      Flag.builtins ++
        (Flag.shellFlag ::
            (Compiler.fresh.compileAll schemas).commands.flatMap Compiled.flags).filter
          fun flag => flag.visibleTo command := by
  have seen : (app.flags.visible command).map Definition.flag =
      (app.flags.definitions.map Definition.flag).filter fun flag => flag.visibleTo command := by
    rw [Registry.visible, List.filter_map]
    rfl
  have builtins : Flag.builtins.filter (fun flag => flag.visibleTo command) = Flag.builtins := by
    have all : ∀ flag ∈ Flag.builtins, flag.scope = Flag.globalScope := by decide
    exact List.filter_eq_self.mpr fun flag hflag => Flag.visibleTo_iff.mpr (.inl (all flag hflag))
  rw [seen, definitions_of_perform performed, List.filter_append, builtins]

/-- In an application with the commands that a compiler has accepted, the flags of the other
commands are hidden from a command, and its command lines set, accept and demand only built-in flags
and those declared for it, if and only if its name is the word for the scope of all commands or no
flag is declared for a command of that name. -/
theorem confined_compileAll_iff :
    ((∀ c ∈ (Compiler.fresh.compileAll schemas).commands, c.schema.name ≠ command →
          ∀ flag ∈ c.flags, flag.visibleTo command = false) ∧
        app.flags.Confined command
          (Flag.builtins ++
            declaredFor (Compiler.fresh.compileAll schemas).commands command)) ↔
      command = Flag.globalScope ∨
        declaredFor (Compiler.fresh.compileAll schemas).commands Flag.globalScope = [] := by
  have owned := owned_compileAll schemas
  constructor
  · rintro ⟨hidden, -⟩
    exact (hidden_iff owned).mp hidden
  · intro safe
    refine ⟨(hidden_iff owned).mpr safe, Registry.confined_iff.mpr ?_⟩
    rw [visible_of_perform performed, filter_visibleTo_eq_declaredFor owned safe]

end

/-- The flag of a command `greet` is no business of the version command. -/
theorem confined_greeter_version :
    perform "_commands"
        (Compiler.fresh.compileAll [greeting { name := "name", short := "n" }]).commands
        (.fresh "app" "1.0.0" "" .empty false) = .ok (greeter nameDefinition) ∧
      (∀ c ∈ (Compiler.fresh.compileAll [greeting { name := "name", short := "n" }]).commands,
        c.schema.name ≠ "version" → ∀ flag ∈ c.flags, flag.visibleTo "version" = false) ∧
      (greeter nameDefinition).flags.Confined "version" Flag.builtins := by
  have performed : perform "_commands"
      (Compiler.fresh.compileAll [greeting { name := "name", short := "n" }]).commands
      (.fresh "app" "1.0.0" "" .empty false) = .ok (greeter nameDefinition) := rfl
  exact ⟨performed, (confined_compileAll_iff performed).mpr (by decide)⟩

def tokenFlag : Flag := { long := "token", required := true, scope := "global" }

/-- A command called by the word for the scope of all commands, with that flag. -/
def globalCommand : Schema × Path :=
  ({ name := "global", description := "Set things", args := [{ name := "token", required := true }]
     source := none },
    ⟨0, ["global", "main.py"]⟩)

/-- The flag of that command is demanded from the version command. -/
theorem token_demanded_from_version :
    ∃ app,
      perform "_commands" (Compiler.fresh.compileAll [globalCommand]).commands
          (.fresh "app" "1.0.0" "" .empty false) = .ok app ∧
        app.commands.has "version" = true ∧
        (∃ c ∈ (Compiler.fresh.compileAll [globalCommand]).commands,
          c.schema.name ≠ "version" ∧ tokenFlag ∈ c.flags) ∧
        tokenFlag.visibleTo "version" = true ∧
        (app.flags.parse ⟨.directory [], []⟩ "version" []).2 =
          some (.usage (.missingFlag "token")) :=
  ⟨_, rfl, rfl, by decide, rfl, rfl⟩

end Toolsmith.Registrations
