import Toolsmith.Proofs.Application.ExitCodes
import Toolsmith.Proofs.Artifact.Scopes
import Toolsmith.Proofs.Flag.Demand
/-!
# The completion command of an artifact

The completion command asks the flags for a shell before it looks at the variables.  Its own flag
for the shell has no default, but the value may be the default that a flag of the same name of some
other command has left (`completes_iff`).  So it gives the script for the calling shell in all
surroundings only if no command declares such a default; and only if a log file that a command
declares in the same way can be had.
-/

namespace Toolsmith

/-! ## 1. Shells -/

theorem Shell.detect_cases (environment : Table String) :
    detect environment = "bash" ∨ detect environment = "zsh" := by
  unfold detect
  split
  · exact .inr rfl
  · split
    · exact .inl rfl
    · dsimp only
      split
      next known => simpa [names] using known
      next => exact .inl rfl

/-! ## 2. Runs of the completion command -/

namespace Session

variable {host : Surroundings} {s : Session} {word : String}

/-- The shell that the flags name, or else the calling one. -/
def shell (host : Surroundings) (flags : Registry) : String :=
  if flags.value "shell" = "" then Shell.detect host.«variables» else flags.value "shell"

theorem doBuiltin_completion (host : Surroundings) (word : String) (s : Session) :
    s.doBuiltin host word .completion =
      match s.app.completions.get? (shell host s.app.flags) with
      | none => (s, .error (.internal (.noScript (shell host s.app.flags) s.app.name)))
      | some script =>
        ((s.record host (Log.commandPart word) .debug
            ("Emitting " ++ shell host s.app.flags ++ " completion")).inWorld (·.sayOut script),
          .ok .nothing) := rfl

theorem execute_completion_iff {label : Option String}
    (found : s.app.commands.handler? word = some ⟨label, .builtin .completion⟩) (script : String) :
    (s.execute host word).2 = .ok ExitCode.success ∧
        (s.execute host word).1.world.out = s.world.out ++ script ↔
      s.app.completions.get? (shell host s.app.flags) = some script := by
  simp only [execute, found, perform, doBuiltin_completion, record_app, concluded_fst]
  cases s.app.completions.get? (shell host s.app.flags) with
  | none => simp [concluded]
  | some emitted =>
    -- The records before it go to standard error.
    have success : ExitValue.nothing.code = .ok ExitCode.success := rfl
    simp [concluded, success]

theorem run_completion_iff {label : Option String} {tokens : List String} {flags : Registry}
    (help : word ∉ helpWords) (version : word ∉ versionWords)
    (found : s.app.commands.handler? word = some ⟨label, .builtin .completion⟩)
    (read : s.app.flags.parse s.world.files word tokens = (flags, none))
    (unasked : flags.isTrue "help" = false) (script : String) :
    (s.run host (word :: tokens)).2 = ExitCode.success ∧
        (s.run host (word :: tokens)).1.world.out = s.world.out ++ script ↔
      (s.world.setUpLog (levelName flags) (some (flags.value "log-file"))).2 = none ∧
        s.app.completions.get? (shell host flags) = some script := by
  rw [run_eq_success_iff,
    dispatch_of_read help version (Commands.has_of_handler? found) read]
  have logged : ((s.entered word flags).setUp host).2 =
      (s.world.setUpLog (levelName flags) (some (flags.value "log-file"))).2 := setUp_snd ..
  rw [← logged]
  rcases prepared : (s.entered word flags).setUp host with ⟨ready, _ | failure⟩
  · have completions : ready.app.completions = s.app.completions := by simp [app_of_setUp prepared]
    dsimp only
    rw [if_neg (by simp [flags_of_setUp prepared, unasked]), ← (prepared_of_setUp prepared).out,
      execute_completion_iff (commands_of_setUp prepared ▸ found), flags_of_setUp prepared,
      completions]
    simp
  · simp

end Session

-- An empty name of a log file is none.
theorem World.setUpLog_getD (world : World) (level : String) (file : Option String) :
    world.setUpLog level (some (file.getD "")) = world.setUpLog level file := by
  cases file with
  | none => rfl
  | some file => rfl

/-! ## 3. What other commands leave to the completion command -/

namespace Registry

variable {registry : Registry}

-- The name of a flag that all commands see is free for no other flag.
theorem Built.inherited_of_global (built : registry.Built) {d : Definition}
    (hd : d ∈ registry.definitions) (all : d.flag.scope = Flag.globalScope) (command : String) :
    registry.inherited command d.flag.long = none := by
  have seen (other : String) : d.flag.visibleTo other = true := Flag.visibleTo_iff.mpr (.inl all)
  refine inherited_eq_none_iff.mpr ?_
  intro e he hidden same
  have own : e.flag.visibleTo e.flag.scope = true := Flag.visibleTo_iff.mpr (.inr rfl)
  have : e = d :=
    built.apart.eq_of_long_eq (mem_visible.mpr ⟨he, own⟩) (mem_visible.mpr ⟨hd, seen _⟩) same
  rw [this, seen command] at hidden
  cases hidden

end Registry

namespace Registrations

section

variable {schemas : List (Schema × Path)} {package name version description : String}
  {completions : Table String} {colour : Bool} {app : Application}
  (performed : perform package (Compiler.fresh.compileAll schemas).commands
    (.fresh name version description completions colour) = .ok app)
  (unshared : Flag.globalScope ∉ (Compiler.fresh.compileAll schemas).names)

include unshared

theorem visibleTo_completion_of_mem {c : Compiled}
    (hc : c ∈ (Compiler.fresh.compileAll schemas).commands) {flag : Flag} (hflag : flag ∈ c.flags) :
    flag.visibleTo "completion" = false := by
  have accepted : c.schema.name ∈ (Compiler.fresh.compileAll schemas).names :=
    List.mem_map_of_mem hc
  have h := Compiler.consistent_compileAll schemas
  have nodup := h.nodup
  rw [h.listed, List.nodup_append] at nodup
  rw [Bool.eq_false_iff, ne_eq, Flag.visibleTo_iff, owned_compileAll schemas c hc flag hflag]
  rintro (all | same)
  · rw [all] at accepted
    exact unshared accepted
  · rw [same] at accepted
    exact nodup.2.2 _ (by decide) _ accepted rfl

include performed

-- All flags of accepted commands are hidden from the completion command.
theorem hidden_of_perform :
    (app.flags.hidden "completion").map Definition.flag =
      (Compiler.fresh.compileAll schemas).commands.flatMap Compiled.flags := by
  have split : (app.flags.hidden "completion").map Definition.flag =
      (app.flags.definitions.map Definition.flag).filter
        fun flag => !flag.visibleTo "completion" := by
    rw [Registry.hidden, List.filter_map]
    rfl
  have compiled : ((Compiler.fresh.compileAll schemas).commands.flatMap Compiled.flags).filter
      (fun flag => !flag.visibleTo "completion") =
        (Compiler.fresh.compileAll schemas).commands.flatMap Compiled.flags := by
    refine List.filter_eq_self.mpr ?_
    intro flag hflag
    obtain ⟨c, hc, hflag⟩ := List.mem_flatMap.mp hflag
    rw [visibleTo_completion_of_mem unshared hc hflag]
    rfl
  rw [split, definitions_of_perform performed, ← List.singleton_append, ← List.append_assoc,
    List.filter_append, compiled]
  rfl

theorem inherited_eq_none_iff {long : String} :
    app.flags.inherited "completion" long = none ↔
      ∀ c ∈ (Compiler.fresh.compileAll schemas).commands, ∀ flag ∈ c.flags,
        flag.long = long → flag.default = "" := by
  have flags : (∀ e ∈ app.flags.hidden "completion", e.flag.long = long → e.flag.default = "") ↔
      ∀ flag ∈ (app.flags.hidden "completion").map Definition.flag,
        flag.long = long → flag.default = "" := by
    rw [List.forall_mem_map]
  rw [Registry.inherited, Registry.lastDefault_eq_none_iff, flags,
    hidden_of_perform performed unshared]
  simp only [List.mem_flatMap, forall_exists_index, and_imp]
  exact ⟨fun h c hc flag hflag => h flag c hc hflag, fun h flag c hc hflag => h c hc flag hflag⟩

theorem visible_completion :
    (app.flags.visible "completion").map Definition.flag = Flag.builtins ++ [Flag.shellFlag] := by
  have compiled : ((Compiler.fresh.compileAll schemas).commands.flatMap Compiled.flags).filter
      (fun flag => flag.visibleTo "completion") = [] := by
    refine List.filter_eq_nil_iff.mpr ?_
    intro flag hflag
    obtain ⟨c, hc, hflag⟩ := List.mem_flatMap.mp hflag
    simp [visibleTo_completion_of_mem unshared hc hflag]
  rw [visible_of_perform performed, ← List.singleton_append, List.filter_append, compiled]
  rfl

omit unshared in
theorem inherited_of_mem_builtins {flag : Flag} (hflag : flag ∈ Flag.builtins) (command : String) :
    app.flags.inherited command flag.long = none := by
  have member : flag ∈ app.flags.definitions.map Definition.flag := by
    rw [definitions_of_perform performed]
    exact List.mem_append_left _ hflag
  obtain ⟨d, hd, rfl⟩ := List.mem_map.mp member
  have all : ∀ flag ∈ Flag.builtins, flag.scope = Flag.globalScope := by decide
  exact (built_of_perform Registry.built_withShell performed).inherited_of_global hd
    (all d.flag hflag) command

-- The completion command runs with the defaults that flags of other commands have left.
theorem get?_parse_completion (files : Files) (long : String) :
    (app.flags.parse files "completion" []).1.values.get? long =
      app.flags.inherited "completion" long := by
  have own : Registry.lastDefault (app.flags.visible "completion") long = none := by
    have bare : ∀ flag ∈ Flag.builtins ++ [Flag.shellFlag], flag.default = "" := by decide
    refine Registry.lastDefault_eq_none_iff.mpr ?_
    intro e he _
    refine bare e.flag ?_
    rw [← visible_completion performed unshared]
    exact List.mem_map_of_mem he
  rw [Registry.values_parse]
  show (app.flags.defaults "completion").get? long = _
  rw [Registry.get?_defaults, own, Option.none_or]

theorem value_parse_completion (files : Files) (long : String) :
    (app.flags.parse files "completion" []).1.value long =
      (app.flags.inherited "completion" long).getD "" := by
  rw [Registry.value, get?_parse_completion performed unshared]
  cases app.flags.inherited "completion" long with
  | none => rfl
  | some default =>
    dsimp only
    split
    next empty => exact empty.symm
    next => rfl

-- No built-in flag is set.
theorem get?_parse_completion_of_mem {flag : Flag} (hflag : flag ∈ Flag.builtins) (files : Files) :
    (app.flags.parse files "completion" []).1.values.get? flag.long = none := by
  rw [get?_parse_completion performed unshared, inherited_of_mem_builtins performed hflag]

theorem parse_completion (files : Files) :
    (app.flags.parse files "completion" []).2 = none := by
  refine Registry.parse_snd_eq_none_iff.mpr ⟨rfl, ?_, ?_⟩
  · refine Registry.missing?_eq_none_iff.mpr ?_
    intro d hd required
    have optional : ∀ flag ∈ Flag.builtins ++ [Flag.shellFlag], flag.required = false := by decide
    have seen : d.flag ∈ Flag.builtins ++ [Flag.shellFlag] := by
      rw [Registry.visible_parse] at hd
      rw [← visible_completion performed unshared]
      exact List.mem_map_of_mem hd
    rw [optional d.flag seen] at required
    cases required
  · have groups : (app.flags.parse files "completion" []).1.groups = Registry.withShell.groups := by
      simpa using groups_of_perform performed
    have absent : (app.flags.parse files "completion" []).1.values.get? "verbose" = none :=
      get?_parse_completion_of_mem performed unshared
        (show Flag.verboseFlag ∈ Flag.builtins by decide) files
    have verbose : (app.flags.parse files "completion" []).1.isSet "verbose" = false := by
      rw [Bool.eq_false_iff, ne_eq, Registry.isSet_iff, absent]
      nofun
    refine Registry.conflict?_eq_none_iff.mpr ?_
    rw [groups]
    intro longs hlongs
    obtain rfl : longs = ["verbose", "quiet"] := List.mem_singleton.mp hlongs
    rw [List.filter_cons_of_neg (by simp [verbose])]
    exact List.length_filter_le _ ["quiet"]

theorem isTrue_parse_completion {flag : Flag} (hflag : flag ∈ Flag.builtins) (files : Files) :
    (app.flags.parse files "completion" []).1.isTrue flag.long = false := by
  rw [Registry.isTrue, get?_parse_completion_of_mem performed unshared hflag]
  rfl

omit unshared in
theorem commands_of_perform :
    app.commands = { Application.builtinCommands with
      registered := Application.builtinCommands.registered ++
        (Compiler.fresh.compileAll schemas).commands.map (commandOf package) } := by
  obtain ⟨registry, -, registered, entered, rfl⟩ := perform_eq_ok_iff.mp performed
  exact (Commands.foldlM_register_eq_ok_iff.mp entered).2.2

omit unshared in
theorem completions_of_perform : app.completions = completions := by
  obtain ⟨registry, -, registered, -, rfl⟩ := perform_eq_ok_iff.mp performed
  rfl

omit unshared in
theorem handler?_completion :
    app.commands.handler? "completion" =
      some ⟨some (conventionalName "completion"), .builtin .completion⟩ := by
  have found : app.commands.find? "completion" =
      some ⟨"completion", Builtin.completion.summary, none⟩ := by
    rw [commands_of_perform performed, Commands.find?, List.find?_append]
    rfl
  refine Commands.handler?_eq_some_iff.mpr ⟨_, found, .inr ⟨rfl, ?_⟩⟩
  rw [commands_of_perform performed]
  exact Application.get?_conventions .completion

/-! ## 4. Scripts -/

theorem shell_parse_completion (host : Surroundings) (files : Files) :
    Session.shell host (app.flags.parse files "completion" []).1 =
      (app.flags.inherited "completion" "shell").getD (Shell.detect host.«variables») := by
  rw [Session.shell, value_parse_completion performed unshared]
  cases inherits : app.flags.inherited "completion" "shell" with
  | none => rfl
  | some default => exact if_neg (Registry.ne_empty_of_lastDefault inherits)

/-- What a run of the completion command gives: the script of a shell, which is the one that some
command has for the default of a flag of that name, or else the calling one; provided that there is
a script for it and that the log can be set up. -/
theorem run_completion_iff (host : Surroundings) (world : World) (replies : List Reply)
    (script : String) :
    ((Session.mk app world replies).run host ["completion"]).2 = 0 ∧
        ((Session.mk app world replies).run host ["completion"]).1.world.out =
          world.out ++ script ↔
      (world.setUpLog "info" (app.flags.inherited "completion" "log-file")).2 = none ∧
        completions.get? ((app.flags.inherited "completion" "shell").getD
          (Shell.detect host.«variables»)) = some script := by
  have read : app.flags.parse world.files "completion" [] =
      ((app.flags.parse world.files "completion" []).1, none) :=
    Prod.ext rfl (parse_completion performed unshared world.files)
  have unset {flag : Flag} (hflag : flag ∈ Flag.builtins) :
      (app.flags.parse world.files "completion" []).1.isTrue flag.long = false :=
    isTrue_parse_completion performed unshared hflag world.files
  have level : Session.levelName (app.flags.parse world.files "completion" []).1 = "info" := by
    rw [Session.levelName, if_neg, if_neg]
    · exact Bool.eq_false_iff.mp (unset (show Flag.quietFlag ∈ Flag.builtins by decide))
    · exact Bool.eq_false_iff.mp (unset (show Flag.verboseFlag ∈ Flag.builtins by decide))
  refine (Session.run_completion_iff (s := ⟨app, world, replies⟩) (by decide) (by decide)
    (handler?_completion performed) read
    (unset (show Flag.helpFlag ∈ Flag.builtins by decide)) script).trans ?_
  rw [level, value_parse_completion performed unshared, World.setUpLog_getD,
    shell_parse_completion performed unshared, completions_of_perform performed]

/-- In an application with the commands that a compiler has accepted, none of them called by the
word for the scope of all commands, the completion command gives the script for the calling shell
in all surroundings, if and only if no flag of a command by the name of the flag for the shell has
a default, and the log file can be had that is the default of a flag of a command, if there is one.
-/
theorem completes_iff {bash zsh : String} (hasBash : completions.get? "bash" = some bash)
    (hasZsh : completions.get? "zsh" = some zsh) (differ : bash ≠ zsh) (world : World)
    (replies : List Reply) :
    (∀ host, ∃ script, completions.get? (Shell.detect host.«variables») = some script ∧
        ((Session.mk app world replies).run host ["completion"]).2 = 0 ∧
        ((Session.mk app world replies).run host ["completion"]).1.world.out =
          world.out ++ script) ↔
      (∀ c ∈ (Compiler.fresh.compileAll schemas).commands, ∀ flag ∈ c.flags,
          flag.long = "shell" → flag.default = "") ∧
        (world.setUpLog "info" (app.flags.inherited "completion" "log-file")).2 = none := by
  rw [← inherited_eq_none_iff performed unshared]
  simp only [run_completion_iff performed unshared]
  constructor
  · intro completes
    obtain ⟨-, -, logged, -⟩ := completes Session.nowhere
    refine ⟨?_, logged⟩
    cases asked : app.flags.inherited "completion" "shell" with
    | none => rfl
    | some shell =>
      -- One script cannot be that of the calling shell in both surroundings.
      obtain ⟨script, forBash, -, given⟩ := completes Session.nowhere
      obtain ⟨script', forZsh, -, given'⟩ :=
        completes { Session.nowhere with «variables» := .ofList [("ZSH_VERSION", "5")] }
      rw [asked, Option.getD_some] at given given'
      have bashIs : bash = script := Option.some.inj (hasBash.symm.trans forBash)
      have zshIs : zsh = script' := Option.some.inj (hasZsh.symm.trans forZsh)
      have same : script = script' := Option.some.inj (given.symm.trans given')
      exact absurd (bashIs.trans (same.trans zshIs.symm)) differ
  · rintro ⟨unasked, logged⟩ host
    rw [unasked, Option.getD_none]
    rcases Shell.detect_cases host.«variables» with shell | shell
    · exact ⟨bash, by rw [shell, hasBash], logged, by rw [shell, hasBash]⟩
    · exact ⟨zsh, by rw [shell, hasZsh], logged, by rw [shell, hasZsh]⟩

end

def shortScripts : Table String := .ofList [("bash", "# bash\n"), ("zsh", "# zsh\n")]

def shellGreeting (default : String) : Schema × Path := greeting { name := "shell", default }

/-- Without a default the flag does no harm. -/
theorem completes_shellGreeting :
    ∃ app,
      perform "_commands" (Compiler.fresh.compileAll [shellGreeting ""]).commands
          (.fresh "app" "1.0.0" "" shortScripts false) = .ok app ∧
        Flag.globalScope ∉ (Compiler.fresh.compileAll [shellGreeting ""]).names ∧
        ∀ host, ∃ script, shortScripts.get? (Shell.detect host.«variables») = some script ∧
          ((Session.mk app (.fresh ⟨.directory [], []⟩) []).run host ["completion"]).2 = 0 ∧
          ((Session.mk app (.fresh ⟨.directory [], []⟩) []).run host ["completion"]).1.world.out =
            "" ++ script := by
  have unshared : Flag.globalScope ∉ (Compiler.fresh.compileAll [shellGreeting ""]).names := by
    decide
  refine ⟨_, rfl, unshared, ?_⟩
  exact (completes_iff rfl unshared rfl rfl (by decide) (.fresh ⟨.directory [], []⟩) []).mpr
    ⟨by decide, rfl⟩

/-- With one, the completion command looks for a script that nobody has asked for. -/
theorem fish_for_completion :
    ∃ app,
      perform "_commands" (Compiler.fresh.compileAll [shellGreeting "fish"]).commands
          (.fresh "app" "1.0.0" "" shortScripts false) = .ok app ∧
        Flag.globalScope ∉ (Compiler.fresh.compileAll [shellGreeting "fish"]).names ∧
        shortScripts.get? (Shell.detect Session.nowhere.«variables») = some "# bash\n" ∧
        ((Session.mk app (.fresh ⟨.directory [], []⟩) []).run Session.nowhere
            ["completion"]).2 = 4 ∧
        ((Session.mk app (.fresh ⟨.directory [], []⟩) []).run Session.nowhere
          ["completion"]).1.world.out = "" :=
  ⟨_, rfl, by decide, rfl, rfl, rfl⟩

end Registrations

end Toolsmith
