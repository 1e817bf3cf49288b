import Mathlib.Data.List.Sort
import Mathlib.Data.String.Basic
import Toolsmith.Proofs.Application.Lived
/-!
# The entries of a command table

A command table is filled by calls, each of which registers a command or is refused.  A call is
refused exactly if an earlier one had its name (`call_snd`), and so every name keeps the command of
the first call that had it, whatever calls came later (`find?_after`).  Look-ups, handlers and the
sorted list all go back to these first calls (`records_after`).  The table of an application begins
with the built-in commands, and nothing that happens to the application is more than a call to its
table (`commands_after`), so it never loses them.
-/

namespace Toolsmith

namespace Commands

variable {H : Type} {commands : Commands H} {command : Command H} {name : String}
  {conventions : Table (Binding H)} {calls : List (Command H)}

/-! ## 1. Calls -/

/-- What a call that registers a command makes of a table, and why it is refused if it is. -/
def call (commands : Commands H) (command : Command H) : Commands H × Option InternalFault :=
  match commands.register command with
  | .ok next => (next, none)
  | .error fault => (commands, some fault)

def after (commands : Commands H) (calls : List (Command H)) : Commands H :=
  calls.foldl (fun commands command => (commands.call command).1) commands

/-- A command is the one of the first call that has its name. -/
def FirstOf (calls : List (Command H)) (command : Command H) : Prop :=
  ∃ before later, calls = before ++ command :: later ∧ command.name ∉ before.map Command.name

theorem FirstOf.append (first : FirstOf calls command) (more : List (Command H)) :
    FirstOf (calls ++ more) command := by
  obtain ⟨before, later, rfl, fresh⟩ := first
  exact ⟨before, later ++ more, List.append_assoc _ _ _, fresh⟩

theorem FirstOf.of_nodup (distinct : (calls.map Command.name).Nodup) (h : command ∈ calls) :
    FirstOf calls command := by
  obtain ⟨before, later, rfl⟩ := List.append_of_mem h
  refine ⟨before, later, rfl, ?_⟩
  intro again
  rw [List.map_append, List.nodup_append] at distinct
  exact distinct.2.2 _ again _ List.mem_cons_self rfl

theorem find?_eq_some_iff_firstOf :
    (calls.find? fun c => c.name = name) = some command ↔
      FirstOf calls command ∧ command.name = name := by
  rw [List.find?_eq_some_iff_append, decide_eq_true_iff, and_comm]
  refine and_congr_left ?_
  rintro rfl
  simp [FirstOf]

/-! ## 2. One call -/

theorem call_of_has (taken : commands.has command.name = true) :
    commands.call command = (commands, some (.commandTaken command.name)) := by
  rw [call, register, if_pos taken]

theorem call_of_has_eq_false (free : commands.has command.name = false) :
    commands.call command =
      ({ commands with registered := commands.registered ++ [command] }, none) := by
  rw [call, register, free]
  rfl

theorem call_snd (commands : Commands H) (command : Command H) :
    (commands.call command).2 =
      if commands.has command.name then some (.commandTaken command.name) else none := by
  cases taken : commands.has command.name with
  | true => rw [call_of_has taken, if_pos rfl]
  | false => rw [call_of_has_eq_false taken, if_neg Bool.false_ne_true]

theorem call_fst_of_refused (refused : (commands.call command).2 ≠ none) :
    (commands.call command).1 = commands := by
  cases taken : commands.has command.name with
  | true => rw [call_of_has taken]
  | false =>
    rw [call_of_has_eq_false taken] at refused
    exact absurd rfl refused

theorem conventions_call : (commands.call command).1.conventions = commands.conventions := by
  cases taken : commands.has command.name with
  | true => rw [call_of_has taken]
  | false => rw [call_of_has_eq_false taken]

-- A call adds its command under a name that is free, and leaves all other names as they are.
theorem find?_call :
    (commands.call command).1.find? name =
      (commands.find? name).or ([command].find? fun c => c.name = name) := by
  cases taken : commands.has command.name with
  | false =>
    rw [call_of_has_eq_false taken]
    exact List.find?_append
  | true =>
    rw [call_of_has taken]
    by_cases same : command.name = name
    · rw [has, same] at taken
      obtain ⟨older, found⟩ := Option.isSome_iff_exists.mp taken
      rw [found, Option.some_or]
    · rw [List.find?_cons_of_neg (by simpa using same), List.find?_nil, Option.or_none]

theorem nodup_call (distinct : (commands.registered.map Command.name).Nodup) :
    ((commands.call command).1.registered.map Command.name).Nodup := by
  cases taken : commands.has command.name with
  | true =>
    rw [call_of_has taken]
    exact distinct
  | false =>
    rw [call_of_has_eq_false taken]
    show ((commands.registered ++ [command]).map Command.name).Nodup
    rw [List.map_append, List.nodup_append]
    refine ⟨distinct, List.nodup_singleton _, ?_⟩
    intro older holder last hlast same
    rw [same, List.mem_singleton.mp hlast] at holder
    exact has_eq_false_iff.mp taken holder

/-! ## 3. Any number of calls -/

theorem conventions_after (commands : Commands H) (calls : List (Command H)) :
    (commands.after calls).conventions = commands.conventions := by
  induction calls generalizing commands with
  | nil => rfl
  | cons command calls ih => exact (ih (commands.call command).1).trans conventions_call

theorem nodup_after (distinct : (commands.registered.map Command.name).Nodup)
    (calls : List (Command H)) :
    ((commands.after calls).registered.map Command.name).Nodup := by
  induction calls generalizing commands with
  | nil => exact distinct
  | cons command calls ih => exact ih (nodup_call distinct)

/-- A name keeps the command that it has, or gets that of the first call that has it. -/
theorem find?_after (commands : Commands H) (calls : List (Command H)) (name : String) :
    (commands.after calls).find? name =
      (commands.find? name).or (calls.find? fun c => c.name = name) := by
  induction calls generalizing commands with
  | nil => exact Option.or_none.symm
  | cons command calls ih =>
    show ((commands.call command).1.after calls).find? name = _
    rw [ih, find?_call, Option.or_assoc, ← List.find?_append]
    rfl

theorem find?_after_empty :
    ((empty conventions).after calls).find? name = some command ↔
      FirstOf calls command ∧ command.name = name := by
  rw [find?_after, ← find?_eq_some_iff_firstOf]
  rfl

theorem has_after_empty :
    ((empty conventions).after calls).has name = true ↔ name ∈ calls.map Command.name := by
  rw [has, find?_after]
  show (calls.find? fun c => c.name = name).isSome = true ↔ _
  simp

/-! ## 4. The sorted list -/

theorem mem_names : name ∈ commands.names ↔ commands.has name = true := by
  rw [names, List.mem_mergeSort, has_iff]

theorem names_pairwise (distinct : (commands.registered.map Command.name).Nodup) :
    commands.names.Pairwise (· < ·) := by
  have ordered : commands.names.Pairwise (· ≤ ·) := List.pairwise_mergeSort' (α := String) (· ≤ ·) _
  have apart : commands.names.Nodup := (List.mergeSort_perm _ _).nodup_iff.mpr distinct
  exact ordered.imp₂ (fun _ _ => lt_of_le_of_ne) apart

theorem map_name_sorted (commands : Commands H) :
    commands.sorted.map Command.name = commands.names := by
  rw [sorted, List.map_filterMap]
  have named : ∀ name ∈ commands.names,
      (commands.find? name).map Command.name = some name := by
    intro name hname
    obtain ⟨command, found⟩ := Option.isSome_iff_exists.mp (mem_names.mp hname)
    have same := name_of_find? found
    rw [found, Option.map_some, same]
  rw [List.filterMap_congr named, List.filterMap_some]

theorem mem_sorted : command ∈ commands.sorted ↔ commands.find? command.name = some command := by
  rw [sorted, List.mem_filterMap]
  constructor
  · rintro ⟨name, -, found⟩
    have same := name_of_find? found
    rw [same]
    exact found
  · intro found
    refine ⟨command.name, mem_names.mpr ?_, found⟩
    rw [has, found]
    rfl

/-- A table records the first calls: it lists their commands by name, in the order of code points,
and finds a command and its handler by them.  A further call is refused if its name was called
before, and then changes nothing. -/
structure Records (conventions : Table (Binding H)) (calls : List (Command H))
    (table : Commands H) : Prop where
  ascending : table.names.Pairwise fun a b => a.toList.map Char.toNat < b.toList.map Char.toNat
  listed : ∀ name, name ∈ table.names ↔ name ∈ calls.map Command.name
  in_order : table.sorted.map Command.name = table.names
  entries : ∀ command, command ∈ table.sorted ↔ FirstOf calls command
  present : ∀ name, table.has name = true ↔ name ∈ calls.map Command.name
  found : ∀ name command, table.find? name = some command ↔
    FirstOf calls command ∧ command.name = name
  handlers : ∀ name handler, table.handler? name = some handler ↔
    ∃ command, (FirstOf calls command ∧ command.name = name) ∧
      (command.handler = some handler ∨ command.handler = none ∧
        conventions.get? ("cmd_" ++ Text.replaceChar '-' '_' name) = some (.callable handler))
  refused : ∀ command, (table.call command).2 =
    if command.name ∈ calls.map Command.name then some (.commandTaken command.name) else none
  kept : ∀ command, (table.call command).2 ≠ none → (table.call command).1 = table

/-- After any calls, refused ones among them, a table that was empty records the first calls. -/
theorem records_after (conventions : Table (Binding H)) (calls : List (Command H)) :
    Records conventions calls ((empty conventions).after calls) where
  ascending := by
    have distinct : ((empty conventions).registered.map Command.name).Nodup := List.nodup_nil
    refine (names_pairwise (nodup_after distinct calls)).imp ?_
    intro a b before
    exact List.map_lt (fun _ _ less => less) (String.lt_iff_toList_lt.mp before)
  listed name := mem_names.trans has_after_empty
  in_order := map_name_sorted _
  entries command := by
    rw [mem_sorted, find?_after_empty]
    exact and_iff_left rfl
  present name := has_after_empty
  found name command := find?_after_empty
  handlers name handler := by
    simp only [handler?_eq_some_iff, find?_after_empty, conventions_after]
    rfl
  refused command := by
    rw [call_snd]
    exact if_congr has_after_empty rfl rfl
  kept command := call_fst_of_refused

end Commands

/-! ## 5. The table of an application -/

/-- The command that a step registers or tries to register, if it does. -/
def Step.command? : Step → Option (Command Task)
  | .register (.command command) => some command
  | _ => none

namespace Session

theorem commands_step (s : Session) (next : Step) :
    (s.step next).app.commands = s.app.commands.after next.command?.toList := by
  cases next with
  | register what =>
    cases what with
    | flag flag =>
      dsimp only [step, Application.register]
      cases s.app.flags.register flag <;> rfl
    | group name longs => rfl
    | command command =>
      dsimp only [step, Application.register, Step.command?, Option.toList, Commands.after,
        List.foldl, Commands.call]
      cases s.app.commands.register command <;> rfl
  | parse command tokens => rfl
  | dispatch host words => exact Application.commands_of_lasting_eq (lasting_dispatch host words s)
  | run host words => exact Application.commands_of_lasting_eq (lasting_run host words s)
  | elsewhere files => rfl

/-- Of all that may happen to an application, only the registrations of commands are calls to its
command table. -/
theorem commands_after (s : Session) (steps : List Step) :
    (s.after steps).app.commands = s.app.commands.after (steps.filterMap Step.command?) := by
  induction steps generalizing s with
  | nil => rfl
  | cons next steps ih =>
    show ((s.step next).after steps).app.commands = _
    rw [ih, commands_step, List.filterMap_cons, Commands.after, Commands.after, ← List.foldl_append]
    cases next.command? <;> rfl

end Session

namespace Commands

def ofBuiltin (b : Builtin) : Command Task := ⟨b.name, b.summary, none⟩

theorem builtinCommands_eq_after :
    Application.builtinCommands =
      (empty Application.conventions).after (Builtin.all.map ofBuiltin) := by
  rfl

theorem firstOf_builtin (b : Builtin) : FirstOf (Builtin.all.map ofBuiltin) (ofBuiltin b) := by
  have listed : b ∈ Builtin.all := by cases b <;> decide
  exact FirstOf.of_nodup (by decide) (List.mem_map_of_mem listed)

/-- However an application was used, its command table is that of its built-in commands and of later
calls. -/
theorem exists_calls_of_lived {s : Session} (lived : s.Lived) :
    ∃ calls, s.app.commands =
      (empty Application.conventions).after (Builtin.all.map ofBuiltin ++ calls) := by
  obtain ⟨name, version, description, completions, colour, world, replies, steps, rfl⟩ := lived
  refine ⟨steps.filterMap Step.command?, ?_⟩
  rw [Session.commands_after]
  show Application.builtinCommands.after _ = _
  rw [builtinCommands_eq_after, after, after, after, List.foldl_append]

/-- Whatever calls were made to a command table, it lists the names that were called, each once and
in ascending order, and under each name it keeps the command of the first call and its handler: its
own, or else the one under its conventional name.  A refused call has changed nothing.  So whatever
has happened to an application, it finds and lists its built-in commands as they were, and under
their names it finds the built-in tasks. -/
theorem first_call_stands (conventions : Table (Binding H)) (calls : List (Command H)) :
    Records conventions calls ((empty conventions).after calls) ∧
      ∀ s : Session, s.Lived → ∀ b : Builtin,
        s.app.commands.find? b.name = some ⟨b.name, b.summary, none⟩ ∧
          ⟨b.name, b.summary, none⟩ ∈ s.app.commands.sorted ∧
          s.app.commands.handler? b.name =
            some ⟨some (conventionalName b.name), .builtin b⟩ := by
  refine ⟨records_after conventions calls, ?_⟩
  intro s lived b
  obtain ⟨later, table⟩ := exists_calls_of_lived lived
  have records := records_after Application.conventions (Builtin.all.map ofBuiltin ++ later)
  have first := (firstOf_builtin b).append later
  rw [table]
  refine ⟨(records.found _ _).mpr ⟨first, rfl⟩, (records.entries _).mpr first, ?_⟩
  exact (records.handlers _ _).mpr ⟨_, ⟨first, rfl⟩, .inr ⟨rfl, Application.get?_conventions b⟩⟩

/-- A command that is called again keeps its help text, and its handler is still the one under its
conventional name.  A call for the name of a built-in command is refused in the midst of runs. -/
theorem first_call_stands_dry_run :
    let conventions : Table (Binding String) :=
      .ofList [("cmd_dry_run", .callable ⟨none, "try"⟩), ("cmd_other", .constant)]
    let calls : List (Command String) :=
      [⟨"other", "", none⟩, ⟨"dry-run", "Try", none⟩, ⟨"dry-run", "Do", some ⟨none, "do"⟩⟩]
    let table := (empty conventions).after calls
    let host : Surroundings := ⟨.empty, false, 0, .empty, .empty⟩
    let s : Session := ⟨.fresh "app" "1.0.0" "" .empty false, .fresh ⟨.directory [], []⟩, []⟩
    let mine : Command Task := ⟨"help", "Mine", some ⟨none, .handler (.done .nothing)⟩⟩
    let lived := s.after [.run host ["commands"], .register (.command mine), .run host ["help"]]
    (table.find? "dry-run" = some ⟨"dry-run", "Try", none⟩ ∧
        table.handler? "dry-run" = some ⟨none, "try"⟩ ∧
        (∀ handler, table.handler? "other" ≠ some handler)) ∧
      lived.Lived ∧
      lived.app.commands.handler? "help" = some ⟨some "cmd_help", .builtin .help⟩ := by
  intro conventions calls table host s mine lived
  obtain ⟨records, builtins⟩ := first_call_stands conventions calls
  have first : FirstOf calls ⟨"dry-run", "Try", none⟩ :=
    ⟨[⟨"other", "", none⟩], _, rfl, by decide⟩
  have used : lived.Lived := ⟨_, _, _, _, _, _, _, _, rfl⟩
  refine ⟨⟨(records.found _ _).mpr ⟨first, rfl⟩, ?_, ?_⟩, used, (builtins lived used .help).2.2⟩
  · exact (records.handlers _ _).mpr ⟨_, ⟨first, rfl⟩, .inr ⟨rfl, rfl⟩⟩
  · intro handler found
    obtain ⟨command, ⟨first, named⟩, own | ⟨-, binding⟩⟩ := (records.handlers _ _).mp found
    · have other : command = ⟨"other", "", none⟩ :=
        Option.some.inj ((find?_eq_some_iff_firstOf.mpr ⟨first, named⟩).symm.trans rfl)
      rw [other] at own
      cases own
    · cases binding

end Commands

end Toolsmith
