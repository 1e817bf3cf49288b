import Mathlib.Data.List.TakeWhile
import Toolsmith.Proofs.Application.ExitCodes
import Toolsmith.Proofs.Application.Gating
import Toolsmith.Proofs.Application.Lived
import Toolsmith.Proofs.Flag.Help
/-!
# Help on a command

The help on a command ends with the flags that are listed for it.  They are the ones that the
command sees unless its name is the word for all scopes, and the ones that can be typed unless
besides an older flag answers to the names of one of them (`commandHelp_lists_iff`).

A run that asks for help on a command and does nothing else prints it only if nothing else is
demanded (`run_asking`): the flags are checked before help is given.
-/

namespace Toolsmith

/-! ## 1. The text -/

namespace Text

-- What is left of a text that is not blank does not end with a blank.
theorem exists_trimBack {cs : List Char} {c : Char} (hc : c ∈ cs) (some : isBlank c = false) :
    ∃ front last, trimBack cs = front ++ [last] ∧ isBlank last = false := by
  cases left : cs.reverse.dropWhile isBlank with
  | nil =>
    have all := List.dropWhile_eq_nil_iff.mp left c (List.mem_reverse.mpr hc)
    rw [some] at all
    cases all
  | cons last front =>
    refine ⟨front.reverse, last, ?_, ?_⟩
    · rw [trimBack, left, List.reverse_cons]
    · have first := List.head?_dropWhile_not isBlank cs.reverse
      rw [left] at first
      simpa using first

end Text

theorem Console.ended_of_last {text : String} {front : List Char} {last : Char}
    (chars : text.toList = front ++ [last]) (other : last ≠ '\n') :
    Console.ended text = text ++ "\n" := by
  have unended : text.endsWith "\n" = false := by
    rw [String.endsWith_eq_endsWith_toSlice, String.Slice.endsWith_string_eq_false_iff,
      String.copy_toSlice, chars]
    rintro ⟨start, same⟩
    have ends := congrArg List.getLast? same
    rw [List.getLast?_append, List.getLast?_concat] at ends
    exact other (Option.some.inj ends).symm
  unfold Console.ended
  rw [unended, if_neg Bool.false_ne_true]

theorem Definition.exists_last_helpLine (d : Definition) :
    ∃ front last, d.helpLine.toList = front ++ [last] ∧ last ≠ '\n' := by
  let row := Text.padEnd helpColumn d.usage ++ " " ++ d.flag.help
  unfold Definition.helpLine
  dsimp only
  split
  · refine ⟨(Text.trimEnd row).toList ++ " (required".toList, ')', ?_, by decide⟩
    rw [String.toList_append, List.append_assoc]
    rfl
  · split
    · refine ⟨(Text.trimEnd row ++ " [default: " ++ d.flag.default).toList, ']', ?_, by decide⟩
      rw [String.toList_append]
      rfl
    · -- Without a remark at the end there are still the dashes of the long name.
      have dash : '-' ∈ row.toList := by
        have usage : '-' ∈ d.usage.toList := by
          unfold Definition.usage
          rw [String.toList_append, String.toList_append, String.toList_append]
          exact List.mem_append_left _ (List.mem_append_left _ (List.mem_append_left _ (by decide)))
        rw [String.toList_append, String.toList_append, Text.padEnd, String.toList_ofList]
        exact List.mem_append_left _ (List.mem_append_left _ (List.mem_append_left _ usage))
      obtain ⟨front, last, chars, some⟩ := Text.exists_trimBack dash (by decide)
      refine ⟨front, last, ?_, ?_⟩
      · rw [Text.trimEnd, String.toList_ofList]
        exact chars
      · rintro rfl
        cases some

namespace Application

/-- The help on a command up to its options. -/
def commandHead (app : Application) (command : String) : String :=
  let help := app.commands.help command
  let summary := if help = "" then "No description available" else help
  Text.join "\n"
    [app.name ++ " " ++ command ++ " - " ++ summary,
      "",
      "Usage:",
      "  " ++ app.name ++ " " ++ command ++ " [options] [arguments]",
      "",
      "Options:"] ++ "\n"

theorem commandHelp_eq (app : Application) (command : String) :
    app.commandHelp command = app.commandHead command ++ app.flags.help command := rfl

theorem ended_commandHelp {app : Application} {command : String}
    (some : app.flags.listed command ≠ []) :
    Console.ended (app.commandHelp command) = app.commandHelp command ++ "\n" := by
  obtain ⟨others, d, parts⟩ := (List.eq_nil_or_concat _).resolve_left some
  obtain ⟨line, last, lineChars, other⟩ := d.exists_last_helpLine
  have help : app.flags.help command =
      Text.join "\n" (others.map Definition.helpLine ++ [d.helpLine]) := by
    show Text.join "\n" ((app.flags.listed command).map Definition.helpLine) = _
    rw [parts, List.concat_eq_append, List.map_append]
    rfl
  obtain ⟨front, chars⟩ :=
    Text.exists_join_concat "\n" (others.map Definition.helpLine) d.helpLine
  have allChars : (app.commandHelp command).toList =
      (app.commandHead command).toList ++ (front ++ line) ++ [last] := by
    rw [commandHelp_eq, String.toList_append, help, chars, lineChars]
    simp only [List.append_assoc]
  exact Console.ended_of_last allChars other

end Application

namespace Session

variable {s : Session}

/-! ## 2. What is listed -/

/-- The options in the help on a command are the help lines of the flags that are listed for it, in
the order of registration.  These are the flags that the command sees if and only if its name is not
the word for all scopes.  They are the flags that a token can denote if and only if besides each
flag that the command sees has a name that a token can carry and no older one answers to. -/
theorem commandHelp_lists_iff (lived : s.Lived) (command : String) :
    let flags := s.app.flags
    s.app.commandHelp command = s.app.commandHead command ++
        Text.join "\n" ((flags.listed command).map Definition.helpLine) ∧
      (s.app.commandHelp command = s.app.commandHead command ++
          Text.join "\n" ((flags.visible command).map Definition.helpLine) ↔ command ≠ "all") ∧
      ((∀ d ∈ flags.definitions, d ∈ flags.listed command ↔ flags.Typable command d) ↔
        command ≠ "all" ∧ ∀ before d after, flags.visible command = before ++ d :: after →
          ∃ key, ('=' ∉ key.toList ∨ key = "=") ∧ d.flag.answersTo key = true ∧
            ∀ older ∈ before, older.flag.answersTo key = false) := by
  intro flags
  have equipped : flags.Equipped := lived.equipped
  have some : flags.visible command ≠ [] :=
    List.ne_nil_of_mem equipped.mem_visible_helpDefinition
  have every : flags.listed command = flags.visible command ↔ command ≠ "all" := by
    rw [Registry.listed_eq_visible_iff]
    constructor
    · rintro all rfl
      -- The flag of the completion command is hidden from every other command.
      have shell : Registry.shellDefinition ∈ flags.definitions :=
        equipped.first.subset (List.mem_append_right _ List.mem_cons_self)
      have seen := all rfl _ shell
      revert seen
      decide
    · intro other same
      exact absurd same other
  refine ⟨rfl, ?_, ?_⟩
  · rw [Application.commandHelp_eq, String.append_right_inj, Registry.help_eq_iff some, every]
  · rw [equipped.apart.listed_iff_typable, every]

def registered (what : List Registration) : Session :=
  Session.after ⟨.fresh "app" "1.0.0" "" .empty false, .fresh ⟨.directory [], []⟩, []⟩
    (what.map .register)

theorem lived_registered (what : List Registration) : (registered what).Lived :=
  ⟨_, _, _, _, _, _, _, _, rfl⟩

def idling (name : String) : Registration :=
  .command ⟨name, "", some ⟨none, .handler (.done .nothing)⟩⟩

-- No flag of the command answers to the long name of a later one, so all of them can be typed.
theorem commandHelp_lists_greet :
    let s := registered [.flag { long := "name", scope := "greet" }, idling "greet"]
    s.Lived ∧ s.app.commandHelp "greet" = s.app.commandHead "greet" ++
        Text.join "\n" ((s.app.flags.visible "greet").map Definition.helpLine) ∧
      ∀ d ∈ s.app.flags.definitions,
        d ∈ s.app.flags.listed "greet" ↔ s.app.flags.Typable "greet" d := by
  intro s
  have lived : s.Lived := lived_registered _
  have apart : (s.app.flags.visible "greet").Pairwise fun older d =>
      older.flag.answersTo d.flag.long = false := by decide +kernel
  have plain : ∀ d ∈ s.app.flags.visible "greet", '=' ∉ d.flag.long.toList := by decide +kernel
  obtain ⟨-, lists, reaches⟩ := commandHelp_lists_iff lived "greet"
  refine ⟨lived, lists.mpr (by decide), reaches.mpr ⟨by decide, ?_⟩⟩
  intro before d after seen
  rw [seen] at apart plain
  refine ⟨d.flag.long, .inl (plain d (by simp)), by simp [Flag.answersTo], ?_⟩
  intro older holder
  exact (List.pairwise_append.mp apart).2.2 older holder d List.mem_cons_self

-- A command named after all scopes does not take the flag of the completion command.
theorem shell_listed_for_all :
    let s := registered [idling "all"]
    s.Lived ∧ s.app.commands.has "all" = true ∧
      s.app.commandHelp "all" ≠ s.app.commandHead "all" ++
        Text.join "\n" ((s.app.flags.visible "all").map Definition.helpLine) ∧
      Registry.shellDefinition ∈ s.app.flags.listed "all" ∧
      ¬ s.app.flags.Typable "all" Registry.shellDefinition ∧
      (s.app.flags.parse s.world.files "all" ["--shell=zsh"]).2 =
        some (.usage (.foreignFlag "shell" "all")) := by
  refine ⟨lived_registered _, by decide +kernel, by decide +kernel, by decide +kernel, ?_,
    by decide +kernel⟩
  rintro ⟨token, key, -, resolved⟩
  have seen := Registry.mem_visible_of_resolve resolved
  revert seen
  decide +kernel

/-! ## 3. Asking for help -/

variable {host : Surroundings} {word token : String}

/-- No flag gives the name of the log file a default. -/
def Unfiled (registry : Registry) : Prop :=
  ∀ d ∈ registry.definitions, d.flag.long = "log-file" → d.flag.default = ""

theorem bare_of_mem_helpWords (asks : token ∈ helpWords) :
    ∃ key, Token.ofText token = .bare key ∧ (key = "help" ∨ key = "h") := by
  simp only [helpWords, List.mem_cons, List.not_mem_nil, or_false] at asks
  rcases asks with rfl | rfl
  · exact ⟨"help", rfl, .inl rfl⟩
  · exact ⟨"h", rfl, .inr rfl⟩

-- Without a file the log can be set up, whatever the level.
theorem setUp_of_no_file {flags : Registry} (unfiled : flags.value "log-file" = "") :
    ∃ ready, (s.entered word flags).setUp host = (ready, none) := by
  obtain ⟨rank, known⟩ := threshold_levelName flags
  refine ⟨((s.entered word flags).setUp host).1, Prod.ext rfl ?_⟩
  rw [setUp_snd]
  show (s.world.setUpLog (levelName flags) (some (flags.value "log-file"))).2 = none
  rw [unfiled, World.setUpLog, known]
  rfl

theorem commandHelp_of_lasting_eq {t : Session} (same : t.app.lasting = s.app.lasting)
    (command : String) : t.app.commandHelp command = s.app.commandHelp command :=
  (congrArg (fun app => app.commandHelp command) same :)

section

variable (equipped : s.app.flags.Equipped) (asks : token ∈ helpWords)
include equipped asks

-- Once help has been asked for, no handler is called.
theorem calls_of_asking : s.calls host [word, token] = [] := by
  obtain ⟨key, shape, asked⟩ := bare_of_mem_helpWords asks
  refine List.eq_nil_iff_forall_not_mem.mpr ?_
  intro call hcall
  have gated := gated_of_mem_calls hcall
  obtain ⟨tokens, line, read⟩ := gated.read
  obtain ⟨rfl, rfl⟩ := List.cons.inj line
  have help : (s.app.flags.parse s.world.files call.command [token]).1.isTrue "help" = true :=
    equipped.isTrue_parse_asking shape asked
  rw [read, gated.unasked] at help
  cases help

theorem value_log_file_of_asking (unfiled : Unfiled s.app.flags) (files : Files) :
    (s.app.flags.parse files word [token]).1.value "log-file" = "" := by
  obtain ⟨key, shape, asked⟩ := bare_of_mem_helpWords asks
  have undefaulted : Registry.defaulted s.app.flags.definitions "log-file" = false := by
    rw [Bool.eq_false_iff, ne_eq, Registry.defaulted_iff]
    rintro ⟨d, hd, named, some⟩
    exact some (unfiled d hd named)
  have none : (s.app.flags.parse files word [token]).1.values.get? "log-file" = none := by
    rw [equipped.values_parse_asking shape asked, Table.get?_put_of_ne _ _ (by decide)]
    exact Registry.get?_defaults_eq_none_iff.mpr undefaulted
  unfold Registry.value
  rw [none]

variable (known : s.app.commands.has word = true) (help : word ∉ helpWords)
  (version : word ∉ versionWords)
include known help version

theorem run_of_askable (unfiled : Unfiled s.app.flags) (askable : s.app.flags.Askable word) :
    (s.run host [word, token]).1.world.out = s.world.out ++ s.app.commandHelp word ++ "\n" ∧
      (s.run host [word, token]).1.world.err = s.world.err ∧
      (s.run host [word, token]).2 = 0 := by
  obtain ⟨key, shape, asked⟩ := bare_of_mem_helpWords asks
  let flags := (s.app.flags.parse s.world.files word [token]).1
  have read : s.app.flags.parse s.world.files word [token] = (flags, none) :=
    Prod.ext rfl (equipped.parse_asking_of_askable shape asked askable)
  have unlogged : flags.value "log-file" = "" :=
    value_log_file_of_asking equipped asks unfiled s.world.files
  obtain ⟨ready, prepared⟩ : ∃ ready, (s.entered word flags).setUp host = (ready, none) :=
    setUp_of_no_file unlogged
  have kept := prepared_of_setUp prepared
  have wanted : ready.app.flags.isTrue "help" = true := by
    rw [flags_of_setUp prepared]
    exact equipped.isTrue_parse_asking shape asked
  have same : ready.app.commandHelp word = s.app.commandHelp word :=
    commandHelp_of_lasting_eq (kept.lasting.trans (lasting_of_parse read)) word
  have ended : Console.ended (s.app.commandHelp word) = s.app.commandHelp word ++ "\n" :=
    Application.ended_commandHelp (List.ne_nil_of_mem
      ((Registry.visible_sublist_listed _ _).subset equipped.mem_visible_helpDefinition))
  have outcome : s.run host [word, token] = (ready.write (s.app.commandHelp word), 0) := by
    unfold run
    rw [dispatch_of_read help version known read, prepared]
    dsimp only
    rw [if_pos wanted, same]
    rfl
  simp [outcome, kept.out, kept.err, ended, String.append_assoc]

theorem run_of_unaskable (unaskable : s.app.flags.Unaskable word) :
    (s.run host [word, token]).1.world.out = s.world.out ∧
      (∃ fault, (s.run host [word, token]).1.world.err =
        s.world.err ++ notice (helpOn word s.app) (.usage fault)) ∧
      (s.run host [word, token]).2 = 1 := by
  obtain ⟨key, shape, asked⟩ := bare_of_mem_helpWords asks
  let flags := (s.app.flags.parse s.world.files word [token]).1
  obtain ⟨fault, failed⟩ : ∃ fault,
      (s.app.flags.parse s.world.files word [token]).2 = some (.usage fault) :=
    equipped.parse_asking_of_unaskable shape asked unaskable
  have read : s.app.flags.parse s.world.files word [token] = (flags, some (.usage fault)) :=
    Prod.ext rfl failed
  have stop : Stop host s word [token] (s.entered word flags) (.usage fault) := .misread known read
  have outcome : s.run host [word, token] = ((s.entered word flags).report (.usage fault), 1) := by
    unfold run
    rw [dispatch_of_misread help version known read]
    rfl
  have handled : Failure.usage fault ≠ .interrupt := nofun
  have err : ((s.entered word flags).report (.usage fault)).world.err =
      s.world.err ++ notice (helpOn word s.app) (.usage fault) := by
    rw [← stop.helpFor]
    exact (report_said handled).2
  rw [outcome]
  exact ⟨(report_said handled).1, ⟨fault, err⟩, rfl⟩

end

/-- A run that asks for help on a registered command, and for nothing else, prints it with a line
feed, calls no handler and succeeds, if the required flags that the command sees have defaults and
no group has two names of which each is the help flag or has a default.  If one of the required
flags has no default, not even under its name elsewhere, or the defaults of the flags that the
command sees are enough for two names of a group, the run prints nothing, calls no handler and fails
with a failure of usage. -/
theorem run_asking (lived : s.Lived) (known : s.app.commands.has word = true)
    (help : word ∉ helpWords) (version : word ∉ versionWords) (asks : token ∈ helpWords)
    (unfiled : Unfiled s.app.flags) (host : Surroundings) :
    (s.app.flags.Askable word →
      (s.run host [word, token]).1.world.out = s.world.out ++ s.app.commandHelp word ++ "\n" ∧
        (s.run host [word, token]).1.world.err = s.world.err ∧
        (s.run host [word, token]).2 = 0 ∧ s.calls host [word, token] = []) ∧
      (s.app.flags.Unaskable word →
        (s.run host [word, token]).1.world.out = s.world.out ∧
          (∃ fault, (s.run host [word, token]).1.world.err =
            s.world.err ++ notice (helpOn word s.app) (.usage fault)) ∧
          (s.run host [word, token]).2 = 1 ∧ s.calls host [word, token] = []) := by
  have equipped : s.app.flags.Equipped := lived.equipped
  have uncalled : s.calls host [word, token] = [] := calls_of_asking equipped asks
  constructor
  · intro askable
    obtain ⟨out, err, code⟩ := run_of_askable equipped asks known help version unfiled askable
    exact ⟨out, err, code, uncalled⟩
  · intro unaskable
    obtain ⟨out, err, code⟩ := run_of_unaskable equipped asks known help version unaskable
    exact ⟨out, err, code, uncalled⟩

def greetName (default : String) : Flag :=
  { long := "name", scope := "greet", required := true, default }

-- The required flag of the first application has a default, and that of the second one has none.
theorem run_asking_greet :
    let host : Surroundings := ⟨.empty, false, 0, .empty, .empty⟩
    let named := registered [.flag (greetName "Ann"), idling "greet"]
    let bare := registered [.flag (greetName ""), idling "greet"]
    (named.Lived ∧ Unfiled named.app.flags ∧ named.app.flags.Askable "greet" ∧
        (named.run host ["greet", "-h"]).1.world.out = named.app.commandHelp "greet" ++ "\n" ∧
        (named.run host ["greet", "-h"]).2 = 0 ∧ named.calls host ["greet", "-h"] = []) ∧
      bare.Lived ∧ Unfiled bare.app.flags ∧ bare.app.flags.Unaskable "greet" ∧
        (bare.run host ["greet", "-h"]).1.world.out = "" ∧ (bare.run host ["greet", "-h"]).2 = 1 ∧
        bare.calls host ["greet", "-h"] = [] := by
  intro host named bare
  have lived : named.Lived := lived_registered _
  have lived' : bare.Lived := lived_registered _
  have unfiled : Unfiled named.app.flags := by unfold Unfiled; decide +kernel
  have unfiled' : Unfiled bare.app.flags := by unfold Unfiled; decide +kernel
  have askable : named.app.flags.Askable "greet" := ⟨by decide +kernel, by decide +kernel⟩
  have unaskable : bare.app.flags.Unaskable "greet" := by
    have seen : (⟨greetName "", .text, ValueType.ofText_string⟩ : Definition) ∈
        bare.app.flags.visible "greet" := by decide +kernel
    exact .required seen rfl (by decide +kernel)
  have asks : "-h" ∈ helpWords := by decide
  obtain ⟨out, -, code, uncalled⟩ :=
    (run_asking lived (by decide +kernel) (by decide) (by decide) asks unfiled host).1 askable
  obtain ⟨out', -, code', uncalled'⟩ :=
    (run_asking lived' (by decide +kernel) (by decide) (by decide) asks unfiled' host).2 unaskable
  have silent : named.world.out = "" := rfl
  rw [silent, String.empty_append] at out
  exact ⟨⟨lived, unfiled, askable, out, code, uncalled⟩,
    lived', unfiled', unaskable, out', code', uncalled'⟩

-- A required flag that is missing comes before the help, and so does the help on everything where
-- the command is named as the flag that asks for it.
theorem run_asking_unnamed :
    let host : Surroundings := ⟨.empty, false, 0, .empty, .empty⟩
    let s := registered [.flag (greetName ""), idling "greet", idling "--help"]
    s.Lived ∧ Unfiled s.app.flags ∧ s.app.commands.has "greet" = true ∧
      (s.run host ["greet", "--help"]).1.world.out = "" ∧ (s.run host ["greet", "--help"]).2 = 1 ∧
      s.app.commands.has "--help" = true ∧
      (s.run host ["--help", "--help"]).1.world.out ≠ s.app.commandHelp "--help" ++ "\n" := by
  intro host s
  refine ⟨lived_registered _, by unfold Unfiled; decide +kernel, by decide +kernel,
    by decide +kernel, by decide +kernel, by decide +kernel, ?_⟩
  have other : Console.ended s.app.globalHelp ≠ s.app.commandHelp "--help" ++ "\n" := by
    unfold Console.ended
    split <;> decide +kernel
  have global : "--help" ∈ helpWords := by decide
  have out : (s.run host ["--help", "--help"]).1.world.out =
      s.world.out ++ Console.ended s.app.globalHelp := by
    rw [run, dispatch_of_mem_helpWords global]
    rfl
  have silent : s.world.out = "" := rfl
  rw [out, silent, String.empty_append]
  exact other

end Session

end Toolsmith
