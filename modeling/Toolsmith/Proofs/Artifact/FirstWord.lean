import Toolsmith.Proofs.Artifact.Completion
import Toolsmith.Proofs.Completion.Model
/-!
# The first word of a command line

A run fails for an unknown command, without having called a handler, exactly if its first word is
none of the words for help and version and no name of a command (`unknown_iff`).  Completion offers
the names of the commands in that place, and every spelling of a global flag.  So of what it offers
the names are never refused, and the global flags are, except for help and version
(`offered_refused_iff`).
-/

namespace Toolsmith

/-! ## 1. Unknown commands -/

-- The words of a known command are read without asking for another one.
theorem Registry.parse_ne_unknownCommand {registry : Registry} {files : Files} {command : String}
    {tokens : List String} {name : String} :
    (registry.parse files command tokens).2 ≠ some (.usage (.unknownCommand name)) := by
  intro failed
  rcases fault_of_parse failed with ⟨key, refused⟩ | ⟨d, -, -, missing⟩ | ⟨longs, conflict⟩
  · rcases fault_of_resolve refused with ⟨long, foreign⟩ | unknown
    · cases foreign
    · cases unknown
  · cases missing
  · cases conflict

namespace Session

variable {host : Surroundings} {s t : Session} {word name : String} {tokens : List String}

theorem Stop.unknown_eq (stop : Stop host s word tokens t (.usage (.unknownCommand name))) :
    name = word ∧ s.app.commands.has word = false := by
  cases stop with
  | unknown absent => exact ⟨rfl, absent⟩
  | misread known read =>
    exact absurd (congrArg Prod.snd read) Registry.parse_ne_unknownCommand
  | unprepared known read prepared =>
    have kind := (prepared_of_setUp prepared).kind _ rfl
    simp at kind
  | unfound known read prepared found late missing =>
    cases Deferred.ofSearch_of_resolve missing

-- A run that fails and has called no handler has stopped on its way to one.
theorem stop_of_dispatch {failure : Failure}
    (failed : (s.dispatch host (word :: tokens)).2 = .error failure)
    (uncalled : s.calls host (word :: tokens) = []) :
    ∃ t, Stop host s word tokens t failure := by
  rw [dispatch_eq] at failed
  rw [calls_eq] at uncalled
  cases first : s.approach host (word :: tokens) with
  | error call =>
    rw [first] at uncalled
    cases uncalled
  | ok outcome =>
    rw [first] at failed
    obtain ⟨t, result⟩ := outcome
    obtain rfl : result = .error failure := failed
    obtain ⟨_, _, line, stop⟩ := stop_of_approach first
    obtain ⟨rfl, rfl⟩ := List.cons.inj line
    exact ⟨t, stop⟩

/-- A run fails for an unknown command, and has called no handler, exactly if its first word asks
neither for help nor for the version and names no command. -/
theorem unknown_iff :
    (s.dispatch host (word :: tokens)).2 = .error (.usage (.unknownCommand name)) ∧
        s.calls host (word :: tokens) = [] ↔
      name = word ∧ word ∉ helpWords ∧ word ∉ versionWords ∧
        s.app.commands.has word = false := by
  constructor
  · rintro ⟨failed, uncalled⟩
    obtain ⟨t, stop⟩ := stop_of_dispatch failed uncalled
    obtain ⟨same, absent⟩ := stop.unknown_eq
    refine ⟨same, ?_, ?_, absent⟩
    · intro help
      rw [dispatch_of_mem_helpWords help] at failed
      cases failed
    · intro version
      rw [dispatch_of_mem_versionWords version] at failed
      cases failed
  · rintro ⟨rfl, help, version, absent⟩
    refine ⟨congrArg Prod.snd (dispatch_of_unknown help version absent tokens), ?_⟩
    rw [calls_eq]
    cases first : s.approach host (name :: tokens) with
    | ok outcome => rfl
    | error call =>
      obtain ⟨command, work, t⟩ := call
      obtain ⟨_, _, _, _, line, -, -, known, -⟩ := approach_eq_error_iff.mp first
      obtain ⟨rfl, -⟩ := List.cons.inj line
      rw [absent] at known
      cases known

/-- A command line of one word fails because the word is no command, and no handler is called. -/
def Refuses (host : Surroundings) (s : Session) (word : String) : Prop :=
  ∃ name, (s.dispatch host [word]).2 = .error (.usage (.unknownCommand name)) ∧
    s.calls host [word] = []

theorem refuses_iff :
    s.Refuses host word ↔
      word ∉ helpWords ∧ word ∉ versionWords ∧ s.app.commands.has word = false := by
  simp only [Refuses, unknown_iff, exists_eq_left]

end Session

/-! ## 2. What completion offers -/

namespace Registrations

/-- The spellings of the global flags that ask neither for help nor for the version. -/
def settingWords : List String :=
  [Flag.verboseFlag, Flag.quietFlag, Flag.plainFlag].flatMap Flag.spellings

variable {schemas : List (Schema × Path)}

theorem isName_of_mem_commands :
    ∀ name ∈ (Compiler.fresh.compileAll schemas).catalogue.commands, Check.isName name = true := by
  have consistent := Compiler.consistent_compileAll schemas
  have builtins : ∀ name ∈ Builtin.all.map Builtin.name, Check.isName name = true := by decide
  rw [consistent.listed]
  intro name hname
  rcases List.mem_append.mp hname with builtin | accepted
  · exact builtins name builtin
  · obtain ⟨c, hc, rfl⟩ := List.mem_map.mp accepted
    exact (consistent.checked c hc).name

theorem names_of_ofCatalogue {program : String} {model : Completion}
    (offered : Completion.ofCatalogue (Compiler.fresh.compileAll schemas).catalogue program =
      .ok model) :
    model.names = (Compiler.fresh.compileAll schemas).catalogue.commands ∧
      model.globalWords = Flag.builtins.flatMap Flag.spellings := by
  rw [Compiler.ofCatalogue_compileAll] at offered
  obtain rfl := Except.ok.inj offered
  refine ⟨?_, Flag.words_flatMap_described Flag.builtins⟩
  rw [← (Compiler.consistent_compileAll schemas).map_name_entries]
  show (List.map Catalogue.Entry.topic _).map Completion.Topic.name = _
  rw [List.map_map]
  rfl

section

variable {package name version description program : String} {completions : Table String}
  {colour : Bool} {app : Application} {model : Completion}
  (performed : perform package (Compiler.fresh.compileAll schemas).commands
    (.fresh name version description completions colour) = .ok app)
include performed

theorem names_of_perform :
    app.commands.registered.map Command.name =
      (Compiler.fresh.compileAll schemas).catalogue.commands := by
  rw [commands_of_perform performed, (Compiler.consistent_compileAll schemas).listed]
  show List.map Command.name (_ ++ _) = _
  rw [List.map_append, List.map_map]
  rfl

/-- In an application with the commands that a compiler has accepted, no name of a command that
completion offers in the first place is refused there as an unknown command.  A spelling of a global
flag is, exactly if the flag is not the one for help or the version. -/
theorem offered_refused_iff
    (offered : Completion.ofCatalogue (Compiler.fresh.compileAll schemas).catalogue program =
      .ok model)
    (host : Surroundings) {s : Session} (ready : s.app.commands = app.commands) :
    (∀ word ∈ model.names, ¬s.Refuses host word) ∧
      ∀ word ∈ model.globalWords, s.Refuses host word ↔ word ∈ settingWords := by
  obtain ⟨names, globals⟩ := names_of_ofCatalogue offered
  have refuses : ∀ word, s.Refuses host word ↔ word ∉ Session.helpWords ∧
      word ∉ Session.versionWords ∧ word ∉ model.names := by
    intro word
    rw [Session.refuses_iff, ready, Commands.has_eq_false_iff, names_of_perform performed, names]
  constructor
  · intro word known refused
    exact ((refuses word).mp refused).2.2 known
  · intro word hword
    rw [globals] at hword
    rw [refuses]
    constructor
    · rintro ⟨help, version, -⟩
      -- What is left of the global flags.
      have rest : ∀ word ∈ Flag.builtins.flatMap Flag.spellings, word ∉ Session.helpWords →
          word ∉ Session.versionWords → word ∈ settingWords := by decide
      exact rest word hword help version
    · intro setting
      -- A flag has a dash in front, and so it is no name.
      have unnamed : ∀ word ∈ settingWords, word ∉ Session.helpWords ∧
          word ∉ Session.versionWords ∧ Check.isName word = false := by decide
      obtain ⟨help, version, dashed⟩ := unnamed word setting
      refine ⟨help, version, ?_⟩
      intro known
      rw [names] at known
      rw [isName_of_mem_commands word known] at dashed
      cases dashed

end

def greeterSession : Session := ⟨greeter nameDefinition, .fresh ⟨.directory [], []⟩, []⟩

/-- The name of the command is offered and known, a flag for a quiet run is offered and refused. -/
theorem quiet_refused_and_greet_known :
    perform "_commands"
        (Compiler.fresh.compileAll [greeting { name := "name", short := "n" }]).commands
        (.fresh "app" "1.0.0" "" .empty false) = .ok greeterSession.app ∧
      ∃ model,
        Completion.ofCatalogue
            (Compiler.fresh.compileAll [greeting { name := "name", short := "n" }]).catalogue
            "app" = .ok model ∧
          "greet" ∈ model.names ∧ ¬greeterSession.Refuses Session.nowhere "greet" ∧
          "-q" ∈ model.globalWords ∧ greeterSession.Refuses Session.nowhere "-q" := by
  have performed : perform "_commands"
      (Compiler.fresh.compileAll [greeting { name := "name", short := "n" }]).commands
      (.fresh "app" "1.0.0" "" .empty false) = .ok greeterSession.app := rfl
  have offered := Compiler.ofCatalogue_compileAll [greeting { name := "name", short := "n" }] "app"
  obtain ⟨known, global⟩ := offered_refused_iff performed offered Session.nowhere rfl
  exact ⟨performed, _, offered, by decide, known "greet" (by decide), by decide,
    (global "-q" (by decide)).mpr (by decide)⟩

/-- A flag for a talkative run is offered, too, and it is no command. -/
theorem verbose_offered_and_refused :
    perform "_commands"
        (Compiler.fresh.compileAll [greeting { name := "name", short := "n" }]).commands
        (.fresh "app" "1.0.0" "" .empty false) = .ok greeterSession.app ∧
      ∃ model,
        Completion.ofCatalogue
            (Compiler.fresh.compileAll [greeting { name := "name", short := "n" }]).catalogue
            "app" = .ok model ∧
          "--verbose" ∈ model.globalWords ∧
          (greeterSession.dispatch Session.nowhere ["--verbose"]).2 =
            .error (.usage (.unknownCommand "--verbose")) :=
  ⟨rfl, _, Compiler.ofCatalogue_compileAll _ "app", by decide, rfl⟩

end Registrations

end Toolsmith
