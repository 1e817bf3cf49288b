import Toolsmith.Proofs.Application.History
/-!
# Colour and quiet from run to run

Whether messages are coloured and whether an application is quiet is settled by a run once its
command line has been read (`run_settings`).  A run that ends before that leaves both as it found
them, and its messages are shown as an earlier command line asked.  So after two histories a run
comes to the same settings if and only if its command line is heeded, or the last ones that were
heeded before it asked for the same (`settings_run_after_eq_iff`).
-/

namespace Toolsmith

/-! ## 1. Settings -/

/-- How an application speaks to the user: in colour or not, and quietly or not. -/
structure Settings where
  colour : Bool
  quiet : Bool
  deriving DecidableEq, Repr

def Application.settings (app : Application) : Settings := ⟨app.colour, app.quiet⟩

namespace Session

variable {host : Surroundings} {s t : Session} {words : List String}

def asked (host : Surroundings) (flags : Registry) : Settings :=
  ⟨host.messagesInColour && !flags.isTrue "no-color", levelName flags = "none"⟩

/-- The flags as a command line sets them, if it calls a command and can be read. -/
def heeded? (s : Session) : List String → Option Registry
  | [] => none
  | word :: tokens =>
    if word ∈ helpWords ∨ word ∈ versionWords ∨ s.app.commands.has word = false then none
    else
      match s.app.flags.parse s.world.files word tokens with
      | (flags, none) => some flags
      | (_, some _) => none

/-! ## 2. One run -/

theorem setUp_settings (host : Surroundings) (s : Session) :
    (s.setUp host).1.app.settings = asked host s.app.flags := by
  simp [Application.settings, asked]

/-- A dispatched command line settles the settings if it is heeded, and else leaves them. -/
theorem dispatch_settings (host : Surroundings) (words : List String) (s : Session) :
    (s.dispatch host words).1.app.settings =
      match s.heeded? words with
      | some flags => asked host flags
      | none => s.app.settings := by
  cases words with
  | nil => rfl
  | cons word tokens =>
    unfold heeded?
    dsimp only
    by_cases help : word ∈ helpWords
    · rw [dispatch_of_mem_helpWords help, if_pos (.inl help)]
      rfl
    by_cases version : word ∈ versionWords
    · rw [dispatch_of_mem_versionWords version, if_pos (.inr (.inl version))]
      rfl
    rcases known : s.app.commands.has word with _ | _
    · rw [dispatch_of_unknown help version known, if_pos (.inr (.inr rfl))]
      rfl
    have called : ¬(word ∈ helpWords ∨ word ∈ versionWords ∨ true = false) := by
      simp [help, version]
    rw [if_neg called]
    rcases read : s.app.flags.parse s.world.files word tokens with ⟨flags, _ | failure⟩
    · rw [dispatch_of_read help version known read]
      have settled := setUp_settings host (s.entered word flags)
      revert settled
      generalize (s.entered word flags).setUp host = outcome
      obtain ⟨ready, _ | failure⟩ := outcome
      · -- Neither the help nor the task of the command touches the application.
        intro settled
        dsimp only
        split <;> simpa using settled
      · exact id
    · rw [dispatch_of_misread help version known read]
      rfl

theorem run_settings (host : Surroundings) (words : List String) (s : Session) :
    (s.run host words).1.app.settings =
      match s.heeded? words with
      | some flags => asked host flags
      | none => s.app.settings := by
  rw [← dispatch_settings]
  unfold run
  obtain ⟨t, failure | code⟩ := s.dispatch host words <;> simp

/-! ## 3. Histories -/

/-- The settings that a step asks for, if it is a command line that is heeded. -/
def asks (s : Session) : Step → Option Settings
  | .run host words | .dispatch host words => (s.heeded? words).map (asked host)
  | _ => none

/-- The settings that the last heeded command line of a history asks for. -/
def lastAsked (s : Session) : List Step → Option Settings
  | [] => none
  | next :: steps => ((s.step next).lastAsked steps).or (s.asks next)

theorem step_settings (s : Session) (next : Step) :
    (s.step next).app.settings = (s.asks next).getD s.app.settings := by
  cases next with
  | register what =>
    dsimp only [step, asks]
    cases registered : s.app.register what with
    | error fault => rfl
    | ok app =>
      cases what with
      | flag flag =>
        obtain ⟨flags, -, rfl⟩ := map_eq_ok_iff.mp registered
        rfl
      | group name longs =>
        cases registered
        rfl
      | command command =>
        obtain ⟨commands, -, rfl⟩ := map_eq_ok_iff.mp registered
        rfl
  | parse command tokens => rfl
  | dispatch host words =>
    dsimp only [step, asks]
    rw [dispatch_settings]
    cases s.heeded? words <;> rfl
  | run host words =>
    dsimp only [step, asks]
    rw [run_settings]
    cases s.heeded? words <;> rfl
  | elsewhere files => rfl

/-- A history leaves the settings that its last heeded command line asks for. -/
theorem after_settings (s : Session) (steps : List Step) :
    (s.after steps).app.settings = (s.lastAsked steps).getD s.app.settings := by
  induction steps generalizing s with
  | nil => rfl
  | cons next steps ih =>
    show ((s.step next).after steps).app.settings = _
    rw [ih, step_settings, lastAsked, Option.getD_or]

-- Whether a command line is heeded is a matter of what outlasts runs, and of the files.
theorem heeded?_congr (same : s.app.lasting = t.app.lasting)
    (files : s.world.files = t.world.files) (words : List String) :
    s.heeded? words = t.heeded? words := by
  have commands := Application.commands_of_lasting_eq same
  have unread : s.app.flags.unread = t.app.flags.unread := (congrArg Application.flags same :)
  have reads (registry : Registry) (word : String) (tokens : List String) :
      registry.unread.parse s.world.files word tokens =
        registry.parse s.world.files word tokens := rfl
  unfold heeded?
  cases words with
  | nil => rfl
  | cons word tokens =>
    dsimp only
    rw [commands, ← files, ← reads s.app.flags, ← reads t.app.flags, unread]

/-- After two histories in which the same registrations were made, a run among the same files and
surroundings comes to the same settings if and only if its command line is heeded, or the last ones
that were heeded before it asked for the same.  If its command line is heeded, the settings are
those that it asks for itself. -/
theorem settings_run_after_eq_iff (s : Session) (before before' : List Step)
    (same : s.made before = s.made before') (files : Files) (host : Surroundings)
    (words : List String) :
    ((((s.after before).resume files).run host words).1.app.settings =
          (((s.after before').resume files).run host words).1.app.settings ↔
        (((s.after before).resume files).heeded? words).isSome ∨
          (s.lastAsked before).getD s.app.settings = (s.lastAsked before').getD s.app.settings) ∧
      ∀ flags, ((s.after before).resume files).heeded? words = some flags →
        (((s.after before).resume files).run host words).1.app.settings = asked host flags := by
  obtain ⟨app, registered, agree⟩ := exists_register_made (s := s) before rfl
  obtain ⟨app', registered', agree'⟩ := exists_register_made (s := s) before' rfl
  rw [same, registered'] at registered
  cases registered
  have lasting : ((s.after before).resume files).app.lasting =
      ((s.after before').resume files).app.lasting := agree.symm.trans agree'
  have heeded : ((s.after before).resume files).heeded? words =
      ((s.after before').resume files).heeded? words := heeded?_congr lasting rfl words
  have resumed (steps : List Step) : ((s.after steps).resume files).app.settings =
      (s.lastAsked steps).getD s.app.settings := after_settings s steps
  rw [run_settings, run_settings, ← heeded]
  cases ((s.after before).resume files).heeded? words with
  | some flags => simp
  | none => simp [resumed]

def atTerminal : Session :=
  ⟨.fresh "app" "1.0.0" "" .empty true, .fresh ⟨.directory [], []⟩, []⟩

def terminal : Surroundings := ⟨.empty, true, 0, .empty, .empty⟩

theorem settings_version_after_plain :
    let before := [Step.run terminal ["version", "--no-color"], .run terminal ["nope"]]
    let before' := [Step.run terminal ["version", "--quiet"]]
    atTerminal.made before = atTerminal.made before' ∧
      atTerminal.lastAsked before = some ⟨false, false⟩ ∧
      atTerminal.lastAsked before' = some ⟨true, true⟩ ∧
      ∀ files, (((atTerminal.after before).resume files).run terminal ["version"]).1.app.settings =
        (((atTerminal.after before').resume files).run terminal ["version"]).1.app.settings := by
  intro before before'
  refine ⟨rfl, by decide +kernel, by decide +kernel, fun files => ?_⟩
  have ⟨iff, _⟩ :=
    settings_run_after_eq_iff atTerminal before before' rfl files terminal ["version"]
  exact iff.mpr (.inl (by rfl))

/-- A word that calls no command is reported without colour if the run before asked for that. -/
theorem settings_unknown_after_plain :
    let before := [Step.run terminal ["version", "--no-color", "--quiet"]]
    atTerminal.made before = atTerminal.made [] ∧
      ((atTerminal.after before).run terminal ["nope"]).1.app.settings = ⟨false, true⟩ ∧
      ((atTerminal.after []).run terminal ["nope"]).1.app.settings = ⟨true, false⟩ :=
  ⟨rfl, by decide +kernel, by decide +kernel⟩

end Session

end Toolsmith
