import Toolsmith.Proofs.Flag.Registry
import Toolsmith.Command.Registry
/-!
# Registering commands

What is found under a name (`handler?_eq_some_iff`), and what registering several commands in turn
needs and does: their names must be free and differ (`foldlM_register_eq_ok_iff`).
-/

namespace Toolsmith.Commands

variable {H : Type} {commands : Commands H} {name : String}

/-! ## 1. Names and handlers -/

theorem has_eq_false_iff :
    commands.has name = false ↔ name ∉ commands.registered.map Command.name := by
  simp [has, find?]

theorem has_iff : commands.has name = true ↔ name ∈ commands.registered.map Command.name := by
  rw [← Bool.not_eq_false, has_eq_false_iff, not_not]

theorem name_of_find? {command : Command H} (found : commands.find? name = some command) :
    command.name = name :=
  of_decide_eq_true (List.find?_some (p := fun c : Command H => decide (c.name = name)) found)

theorem callable?_eq_some_iff {binding? : Option (Binding H)} {handler : Callable H} :
    binding?.bind Binding.callable? = some handler ↔ binding? = some (.callable handler) := by
  rcases binding? with _ | ⟨_ | _⟩ <;> simp [Binding.callable?]

/-- A handler is a command's own, or the command has none and it stands under the conventional
name. -/
theorem handler?_eq_some_iff {handler : Callable H} :
    commands.handler? name = some handler ↔
      ∃ command, commands.find? name = some command ∧
        (command.handler = some handler ∨ command.handler = none ∧
          commands.conventions.get? (conventionalName name) = some (.callable handler)) := by
  refine Option.bind_eq_some_iff.trans (exists_congr fun command => and_congr_right fun _ => ?_)
  cases command.handler with
  | some own => simp
  | none => simp [callable?_eq_some_iff]

theorem has_of_handler? {handler : Callable H} (found : commands.handler? name = some handler) :
    commands.has name = true := by
  obtain ⟨command, named, -⟩ := handler?_eq_some_iff.mp found
  rw [has, named]
  rfl

/-! ## 2. Registrations -/

theorem register_eq_ok_iff {commands' : Commands H} {command : Command H} :
    commands.register command = .ok commands' ↔
      command.name ∉ commands.registered.map Command.name ∧
        commands' = { commands with registered := commands.registered ++ [command] } := by
  rw [← has_eq_false_iff, register]
  cases commands.has command.name with
  | true => simp
  | false => simp [eq_comm]

/-- Commands are registered in turn if their names differ from one another and from those that
are taken. -/
theorem foldlM_register_eq_ok_iff {added : List (Command H)} {commands commands' : Commands H} :
    added.foldlM register commands = .ok commands' ↔
      (∀ command ∈ added, command.name ∉ commands.registered.map Command.name) ∧
        (added.map Command.name).Nodup ∧
        commands' = { commands with registered := commands.registered ++ added } := by
  induction added generalizing commands with
  | nil =>
    constructor
    · intro h
      cases h
      simp
    · rintro ⟨-, -, rfl⟩
      simp [pure, Except.pure]
  | cons command added ih =>
    rw [List.foldlM_cons, bind_eq_ok_iff, List.map_cons, List.nodup_cons]
    constructor
    · rintro ⟨next, first, rest⟩
      obtain ⟨free, rfl⟩ := register_eq_ok_iff.mp first
      obtain ⟨apart, nodup, rfl⟩ := ih.mp rest
      refine ⟨?_, ⟨?_, nodup⟩, by simp⟩
      · intro other hother
        rcases List.mem_cons.mp hother with rfl | hother
        · exact free
        · intro taken
          refine apart other hother ?_
          rw [List.map_append]
          exact List.mem_append_left _ taken
      · intro again
        obtain ⟨other, hother, same⟩ := List.mem_map.mp again
        refine apart other hother ?_
        rw [same, List.map_append]
        exact List.mem_append_right _ (List.mem_singleton_self _)
    · rintro ⟨apart, ⟨fresh, nodup⟩, rfl⟩
      refine ⟨_, register_eq_ok_iff.mpr ⟨apart command List.mem_cons_self, rfl⟩,
        ih.mpr ⟨?_, nodup, by simp⟩⟩
      intro other hother taken
      rw [List.map_append] at taken
      rcases List.mem_append.mp taken with taken | last
      · exact apart other (List.mem_cons_of_mem command hother) taken
      · refine fresh ?_
        rw [← List.mem_singleton.mp last]
        exact List.mem_map_of_mem hother

end Toolsmith.Commands
