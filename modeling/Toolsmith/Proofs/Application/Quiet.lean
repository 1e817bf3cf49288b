import Toolsmith.Proofs.Application.Boundary
/-!
# Quiet runs

The flags for a talkative and a quiet run exclude each other, so a command line that is read with
`quiet` sets the threshold of the log above all levels and marks the application as quiet.  Then
lines, status lines and records come to nothing (`record_of_hushed`), and so does every handler that
writes nothing else (`follow_of_speaks`).  The words that ask for help or for the version call no
command, even where commands of these names are registered, and what they write is not hushed
(`unheard_iff`).
-/

namespace Toolsmith

/-! ## 1. Writing nothing -/

namespace Files

-- A node that is there already is put in its place.
theorem putNode_of_nodeAt? {new : Node} {names : List String} {node : Node}
    (found : nodeAt? node names = some new) : putNode new names node = node := by
  induction names generalizing node with
  | nil => exact (Option.some.inj found).symm
  | cons name names ih =>
    cases node with
    | file bytes executable => cases found
    | directory entries =>
      unfold nodeAt? at found
      cases inside : entries.lookup name with
      | none =>
        rw [inside] at found
        cases found
      | some node =>
        rw [inside] at found
        have kept : putNode new names node = node := ih found
        cases names with
        | nil =>
          obtain rfl : new = node := kept
          rw [putNode, Table.putRow_of_lookup inside]
        | cons next names =>
          simp only [putNode, inside, kept, Table.putRow_of_lookup inside]

@[simp] theorem append_empty (files : Files) (place : List String) :
    files.append place "" = files := by
  unfold append
  split
  next bytes executable found =>
    have same : bytes ++ Text.Utf8.encode "" = bytes := List.append_nil bytes
    rw [same, put, putNode_of_nodeAt? found]
  next => rfl

end Files

theorem Console.ended_ne_empty (text : String) : Console.ended text ≠ "" := by
  unfold Console.ended
  split
  next ends =>
    rintro rfl
    exact absurd ends (by decide)
  next => simp

/-! ## 2. Hushed sessions -/

/-- A handler for a command that only writes lines, status lines and records, as many as it likes
and each as the replies before suggest, and that gives back nothing in the end. -/
inductive Handler.Speaks (command : String) : Handler → Prop
  | done : Speaks command (.done .nothing)
  | out {next : Except Failure Reply → Handler} (text : String)
      (rest : Speaks command (next (.ok .nothing))) : Speaks command (.attempt (.out text) next)
  | success {next : Except Failure Reply → Handler} (message : String)
      (rest : Speaks command (next (.ok .nothing))) :
      Speaks command (.attempt (.success message) next)
  | warning {next : Except Failure Reply → Handler} (message : String)
      (rest : Speaks command (next (.ok .nothing))) :
      Speaks command (.attempt (.warning message) next)
  | log {next : Except Failure Reply → Handler} (level : Level) (message : String)
      (rest : Speaks command (next (.ok (.text (Log.nameOf (Log.commandPart command)))))) :
      Speaks command (.attempt (.log level message) next)

theorem Level.rank_le_critical (level : Level) : level.rank ≤ Level.critical.rank := by
  cases level <;> decide

namespace Session

variable {host : Surroundings} {s : Session} {command : String}

/-- A quiet session whose log shows no records of any level. -/
structure Hushed (s : Session) : Prop where
  quiet : s.app.quiet = true
  setup : ∃ threshold place, s.world.log.setup = some ⟨threshold, place⟩ ∧
    Level.critical.rank < threshold

theorem record_of_hushed (hushed : s.Hushed) {part : String} (named : Log.leadingDots part = 0)
    (level : Level) (message : String) : s.record host part level message = s := by
  obtain ⟨threshold, place, setup, above⟩ := hushed.setup
  have low : ¬threshold ≤ level.rank :=
    Nat.not_le.mpr (Nat.lt_of_le_of_lt level.rank_le_critical above)
  have shown : Log.shown (some ⟨threshold, place⟩) host.clock level message = "" := if_neg low
  have filed : Log.filed ⟨threshold, place⟩ host.clock level message = "" := if_neg low
  have untouched : s.world.record host.clock part level message = s.world := by
    unfold World.record
    simp only [Log.setupFor_of_leadingDots named, Log.withPart_of_leadingDots named, setup, shown,
      World.sayErr, String.append_empty]
    cases place with
    | none => rfl
    | some place =>
      dsimp only
      rw [filed, Files.append_empty]
  rw [record, inWorld, untouched]

theorem Hushed.replied (hushed : s.Hushed) (replies : List Reply) : Hushed { s with replies } :=
  ⟨hushed.quiet, hushed.setup⟩

/-- A handler that speaks into a hushed session changes nothing but the replies it gets. -/
theorem follow_of_speaks (hushed : s.Hushed) {handler : Handler}
    (speaks : handler.Speaks command) :
    ∃ replies, follow host command handler s = ({ s with replies }, .ok .nothing) := by
  induction speaks generalizing s with
  | done => exact ⟨s.replies, rfl⟩
  | out text rest ih | success message rest ih | warning message rest ih =>
    obtain ⟨replies, goesOn⟩ := ih (hushed.replied (s.replies ++ [.nothing]))
    refine ⟨replies, ?_⟩
    rw [follow, answer, if_pos hushed.quiet]
    exact goesOn
  | log level message rest ih =>
    obtain ⟨replies, goesOn⟩ :=
      ih (hushed.replied (s.replies ++ [.text (Log.nameOf (Log.commandPart command))]))
    refine ⟨replies, ?_⟩
    rw [follow, answer]
    dsimp only
    rw [record_of_hushed hushed (Log.leadingDots_commandPart command)]
    exact goesOn

/-! ## 3. Quiet command lines -/

-- Both flags would be set, and the group lets only one of them be.
theorem levelName_of_quiet {flags : Registry} (unconflicted : flags.conflict? = none)
    (intact : flags.groups.get? Registry.verbosityGroup.1 = some Registry.verbosityGroup.2)
    (quiet : flags.isTrue "quiet" = true) : levelName flags = "none" := by
  have set {long : String} (h : flags.isTrue long = true) : flags.isSet long = true :=
    Registry.isSet_iff.mpr ⟨"true", of_decide_eq_true h, by decide⟩
  have unspoken : flags.isTrue "verbose" = false := by
    rw [Bool.eq_false_iff]
    intro verbose
    obtain ⟨front, back, rows, -⟩ := List.lookup_eq_some_iff.mp intact
    have among : Registry.verbosityGroup.2 ∈ flags.groups.values := by
      rw [Table.values, rows]
      simp
    have one := Registry.conflict?_eq_none_iff.mp unconflicted _ among
    simp [Registry.verbosityGroup, set verbose, set quiet] at one
  simp [levelName, unspoken, quiet]

theorem hushed_of_setUp {word : String} {flags : Registry} {ready : Session}
    (level : levelName flags = "none")
    (prepared : (s.entered word flags).setUp host = (ready, none)) : ready.Hushed := by
  obtain ⟨threshold, place, read, setup⟩ := (prepared_of_setUp prepared).setup rfl
  have none : Log.threshold "none" = .ok 60 := rfl
  rw [level, none] at read
  obtain rfl := Except.ok.inj read
  refine ⟨?_, 60, place, setup, by decide⟩
  simp [app_of_setUp prepared, level]

theorem hushed_of_quiet {word : String} {tokens : List String} {flags : Registry}
    {ready : Session}
    (intact : s.app.flags.groups.get? "verbosity" = some ["verbose", "quiet"])
    (read : s.app.flags.parse s.world.files word tokens = (flags, none))
    (quiet : flags.isTrue "quiet" = true)
    (prepared : (s.entered word flags).setUp host = (ready, none)) : ready.Hushed := by
  have groups : flags.groups = s.app.flags.groups := by
    have kept := s.app.flags.groups_parse s.world.files word tokens
    rwa [read] at kept
  have unconflicted : flags.conflict? = none := by
    have complete := (Registry.parse_snd_eq_none_iff.mp (congrArg Prod.snd read)).2.2
    rwa [read] at complete
  exact hushed_of_setUp (levelName_of_quiet unconflicted (groups ▸ intact) quiet) prepared

/-! ## 4. Quiet runs -/

theorem run_of_speaks {words : List String} {ready : Session} {handler : Handler}
    (called : s.approach host words = .error (command, .handler handler, ready))
    (hushed : ready.Hushed) (speaks : handler.Speaks command) :
    ∃ replies, s.run host words = ({ ready with replies }, ExitCode.success) := by
  obtain ⟨replies, followed⟩ : ∃ replies, follow host command handler ready =
      ({ ready with replies }, .ok .nothing) := follow_of_speaks hushed speaks
  refine ⟨replies, ?_⟩
  rw [run, dispatch_eq, called]
  dsimp only [doWork]
  rw [followed]
  rfl

/-- A run that ends well and shows nothing, neither on standard output or standard error nor in
the files, which are as they were when the log had been set up. -/
structure Unheard (s ready : Session) (ended : Session × Int) : Prop where
  code : ended.2 = ExitCode.success
  out : ended.1.world.out = s.world.out
  err : ended.1.world.err = s.world.err
  files : ended.1.world.files = ready.world.files

-- What is written in any case is seen.
theorem not_unheard_write {ready : Session} {text : String} {code : Int} :
    ¬Unheard s ready (s.begun.write text, code) := by
  rintro ⟨-, out, -, -⟩
  have longer : s.world.out ++ Console.ended text = s.world.out := out
  exact Console.ended_ne_empty text (String.append_eq_left_iff.mp longer)

/-- A quiet command line of a command whose handler only speaks is silent, if and only if the word
for the command is not one of those that ask for help or for the version. -/
theorem unheard_iff {word : String} {tokens : List String} {task : Callable Task}
    {handler : Handler} {flags : Registry} {ready : Session}
    (intact : s.app.flags.groups.get? "verbosity" = some ["verbose", "quiet"])
    (found : s.app.commands.handler? word = some task)
    (explicit : task.handler.work host = .ok (.handler handler))
    (speaks : handler.Speaks word)
    (read : s.app.flags.parse s.world.files word tokens = (flags, none))
    (quiet : flags.isTrue "quiet" = true) (unasked : flags.isTrue "help" = false)
    (prepared : (s.entered word flags).setUp host = (ready, none)) :
    Unheard s ready (s.run host (word :: tokens)) ↔
      word ∉ helpWords ∧ word ∉ versionWords := by
  constructor
  · intro unheard
    constructor
    · intro help
      rw [run, dispatch_of_mem_helpWords help] at unheard
      exact not_unheard_write unheard
    · intro version
      rw [run, dispatch_of_mem_versionWords version] at unheard
      exact not_unheard_write unheard
  · rintro ⟨help, version⟩
    have hushed : ready.Hushed := hushed_of_quiet intact read quiet prepared
    -- The record that the command is executed comes to nothing like all others.
    have called : s.approach host (word :: tokens) = .error (word, .handler handler, ready) :=
      approach_eq_error_iff.mpr ⟨tokens, flags, ready, task, rfl, by simpa using help,
        by simpa using version, Commands.has_of_handler? found, read, prepared,
        by rw [flags_of_setUp prepared, unasked],
        by rw [commands_of_setUp prepared, found], explicit,
        (record_of_hushed hushed rfl _ _).symm⟩
    obtain ⟨replies, ended⟩ := run_of_speaks called hushed speaks
    have done := prepared_of_setUp prepared
    rw [ended]
    exact ⟨rfl, done.out, done.err, rfl⟩

def chatter : Handler :=
  .inOrder [.out "Hello", .success "greeted", .warning "late", .log .debug "done",
    .log .critical "over"] (.done .nothing)

def chatty (command : String) : Session :=
  let file : Definition := ⟨{ long := "log-file" }, .text, ValueType.ofText_string⟩
  ⟨{ Application.fresh "app" "1.0.0" "" .empty false with
      flags := { Registry.withShell with
        definitions := Registry.withShell.definitions ++ [file] }
      commands := ⟨[⟨command, "", some ⟨none, .handler chatter⟩⟩], .empty⟩ },
    .fresh ⟨.directory [], []⟩, []⟩

theorem speaks_chatter (command : String) : chatter.Speaks command :=
  .out _ (.success _ (.warning _ (.log _ _ (.log _ _ .done))))

def hushingFlags (command : String) : Registry :=
  { (chatty command).app.flags with
    values := .ofList [("quiet", "true"), ("log-file", "log.txt")] }

/-- The log file is made and stays empty. -/
theorem unheard_chatty :
    (chatty "greet").app.flags.parse (chatty "greet").world.files "greet"
        ["--quiet", "--log-file=log.txt"] = (hushingFlags "greet", none) ∧
      ∃ ready, ((chatty "greet").entered "greet" (hushingFlags "greet")).setUp nowhere =
          (ready, none) ∧
        Files.nodeAt? ready.world.files.root ["log.txt"] = some (.file [] false) ∧
        Unheard (chatty "greet") ready
          ((chatty "greet").run nowhere ["greet", "--quiet", "--log-file=log.txt"]) := by
  have read : (chatty "greet").app.flags.parse (chatty "greet").world.files "greet"
      ["--quiet", "--log-file=log.txt"] = (hushingFlags "greet", none) := rfl
  have prepared : ((chatty "greet").entered "greet" (hushingFlags "greet")).setUp nowhere =
      ((((chatty "greet").entered "greet" (hushingFlags "greet")).setUp nowhere).1, none) := rfl
  exact ⟨read, _, prepared, rfl,
    (unheard_iff rfl rfl rfl (speaks_chatter "greet") read rfl rfl prepared).mpr
      ⟨by decide, by decide⟩⟩

/-- A command can be registered under a word that asks for help, and then it is not what answers
to the word. -/
theorem heard_chatty :
    (chatty "--help").app.flags.groups.get? "verbosity" = some ["verbose", "quiet"] ∧
      (chatty "--help").app.commands.handler? "--help" = some ⟨none, .handler chatter⟩ ∧
      chatter.Speaks "--help" ∧
      (chatty "--help").app.flags.parse (chatty "--help").world.files "--help"
        ["--quiet", "--log-file=log.txt"] = (hushingFlags "--help", none) ∧
      (hushingFlags "--help").isTrue "quiet" = true ∧
      (hushingFlags "--help").isTrue "help" = false ∧
      ∃ ready, ((chatty "--help").entered "--help" (hushingFlags "--help")).setUp nowhere =
          (ready, none) ∧
        ((chatty "--help").run nowhere ["--help", "--quiet", "--log-file=log.txt"]).1.world.out =
          (chatty "--help").world.out ++ Console.ended (chatty "--help").app.globalHelp ∧
        ((chatty "--help").run nowhere ["--help", "--quiet", "--log-file=log.txt"]).1.world.out ≠
          (chatty "--help").world.out := by
  have prepared : ((chatty "--help").entered "--help" (hushingFlags "--help")).setUp nowhere =
      ((((chatty "--help").entered "--help" (hushingFlags "--help")).setUp nowhere).1, none) := rfl
  have written : ((chatty "--help").run nowhere
      ["--help", "--quiet", "--log-file=log.txt"]).1.world.out =
        (chatty "--help").world.out ++ Console.ended (chatty "--help").app.globalHelp := rfl
  refine ⟨rfl, rfl, speaks_chatter "--help", rfl, rfl, rfl, _, prepared, written, ?_⟩
  rw [written]
  exact fun same => Console.ended_ne_empty _ (String.append_eq_left_iff.mp same)

end Session

end Toolsmith
