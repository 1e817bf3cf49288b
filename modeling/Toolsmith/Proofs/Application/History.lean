import Toolsmith.Proofs.Application.Leftovers
import Toolsmith.Proofs.Command.Registry
/-!
# Runs after other runs

A history is a sequence of registrations, of runs and of command lines that are only dispatched or
only read, of which each may fail.  Nothing but the registrations in it changes what outlasts a
run: made anew in their order, with the rest left out, they lead to the same application
(`exists_register_made`).  So what a run shows depends on which registrations were made before it
and on nothing else that happened (`shown_after_eq`).
-/

namespace Toolsmith

/-! ## 1. Registrations -/

inductive Registration
  | flag (flag : Flag)
  | group (name : String) (longs : List String)
  | command (command : Command Task)

namespace Application

def register (app : Application) : Registration → Except InternalFault Application
  | .flag flag => (app.flags.register flag).map fun flags => { app with flags }
  | .group name longs => .ok { app with flags := app.flags.exclude name longs }
  | .command command =>
    (app.commands.register command).map fun commands => { app with commands }

-- Whether a registration is refused and what it changes is a matter of what outlasts runs.
theorem exists_register_of_lasting_eq {app app' next : Application} {what : Registration}
    (same : app.lasting = app'.lasting) (registered : app.register what = .ok next) :
    ∃ next', app'.register what = .ok next' ∧ next.lasting = next'.lasting := by
  have definitions := definitions_of_lasting_eq same
  have commands := commands_of_lasting_eq same
  cases what with
  | flag flag =>
    obtain ⟨registry, accepted, rfl⟩ := map_eq_ok_iff.mp registered
    obtain ⟨d, rfl, free, rfl⟩ := Registry.register_eq_ok_iff.mp accepted
    rw [definitions] at free
    refine ⟨_, map_eq_ok_iff.mpr ⟨_, Registry.register_eq_ok_iff.mpr ⟨d, rfl, free, rfl⟩, rfl⟩, ?_⟩
    exact congrArg (fun a : Application =>
      { a with flags := { a.flags with definitions := a.flags.definitions ++ [d] } }) same
  | group name longs =>
    cases registered
    exact ⟨_, rfl, congrArg (fun a : Application =>
      { a with flags := a.flags.exclude name longs }) same⟩
  | command command =>
    obtain ⟨entered, accepted, rfl⟩ := map_eq_ok_iff.mp registered
    rw [commands] at accepted
    exact ⟨_, map_eq_ok_iff.mpr ⟨entered, accepted, rfl⟩, congrArg (fun a : Application =>
      { a with commands := entered }) same⟩

end Application

/-! ## 2. Histories -/

/-- What may happen to a session: something is registered, a command line is read, dispatched or
run, or others change the files. -/
inductive Step
  | register (what : Registration)
  | parse (command : String) (tokens : List String)
  | dispatch (host : Surroundings) (words : List String)
  | run (host : Surroundings) (words : List String)
  | elsewhere (files : Files)

namespace Session

variable {host : Surroundings} {s : Session}

def step (s : Session) : Step → Session
  | .register what =>
    match s.app.register what with
    | .ok app => { s with app }
    | .error _ => s
  | .parse command tokens =>
    { s with app.flags := (s.app.flags.parse s.world.files command tokens).1 }
  | .dispatch host words => (s.dispatch host words).1
  | .run host words => (s.run host words).1
  | .elsewhere files => { s with world.files := files }

def after (s : Session) (steps : List Step) : Session := steps.foldl step s

-- The registration that a step makes, if it is one and is not refused.
def madeBy (s : Session) : Step → List Registration
  | .register what =>
    match s.app.register what with
    | .ok _ => [what]
    | .error _ => []
  | _ => []

/-- The registrations that are made in a history, in their order. -/
def made (s : Session) : List Step → List Registration
  | [] => []
  | next :: steps => s.madeBy next ++ (s.step next).made steps

@[simp] theorem unread_parse (registry : Registry) (files : Files) (command : String)
    (tokens : List String) :
    (registry.parse files command tokens).1.unread = registry.unread := by
  simp [Registry.unread]

theorem lasting_entered {flags : Registry} (command : String)
    (read : flags.unread = s.app.flags.unread) :
    (s.entered command flags).app.lasting = s.app.lasting :=
  congrArg (fun flags => { s.app.lasting with flags }) read

@[simp] theorem lasting_setUp (host : Surroundings) (s : Session) :
    (s.setUp host).1.app.lasting = s.app.lasting := by
  simp [Application.lasting]

@[simp] theorem lasting_dispatchCommand (host : Surroundings) (command : String)
    (tokens : List String) (s : Session) :
    (s.dispatchCommand host command tokens).1.app.lasting = s.app.lasting := by
  have read := lasting_entered command (unread_parse s.app.flags s.world.files command tokens)
  rw [← dispatchCommandVia_id]
  unfold dispatchCommandVia
  revert read
  obtain ⟨flags, failure⟩ := s.app.flags.parse s.world.files command tokens
  intro read
  cases failure with
  | some failure => exact read
  | none =>
    have prepared := (lasting_setUp host (s.entered command flags)).trans read
    revert prepared
    dsimp only
    generalize (s.entered command flags).setUp host = outcome
    intro prepared
    obtain ⟨ready, _ | failure⟩ := outcome
    · dsimp only
      split
      · exact prepared
      · rw [executeVia_id]
        simpa using prepared
    · exact prepared

@[simp] theorem lasting_dispatch (host : Surroundings) (words : List String) (s : Session) :
    (s.dispatch host words).1.app.lasting = s.app.lasting := by
  unfold dispatch
  cases words with
  | nil => rfl
  | cons word tokens =>
    dsimp only
    split
    · rfl
    · split
      · rfl
      · split
        · exact lasting_dispatchCommand host word tokens s.begun
        · rfl

@[simp] theorem lasting_run (host : Surroundings) (words : List String) (s : Session) :
    (s.run host words).1.app.lasting = s.app.lasting := by
  rw [← lasting_dispatch host words s]
  unfold run
  obtain ⟨t, failure | code⟩ := s.dispatch host words <;> simp

/-- A step changes what outlasts runs as the registration does that it makes, if it makes one. -/
theorem exists_register_madeBy {app : Application} (same : app.lasting = s.app.lasting)
    (next : Step) :
    ∃ app', (s.madeBy next).foldlM Application.register app = .ok app' ∧
      app'.lasting = (s.step next).app.lasting := by
  cases next with
  | register what =>
    dsimp only [madeBy, step]
    cases registered : s.app.register what with
    | error fault => exact ⟨app, rfl, same⟩
    | ok next =>
      obtain ⟨app', accepted, agree⟩ :=
        Application.exists_register_of_lasting_eq same.symm registered
      exact ⟨app', bind_eq_ok_iff.mpr ⟨app', accepted, rfl⟩, agree.symm⟩
  | parse command tokens =>
    have unread := unread_parse s.app.flags s.world.files command tokens
    exact ⟨app, rfl, same.trans (congrArg (fun flags => { s.app.lasting with flags }) unread).symm⟩
  | dispatch host words => exact ⟨app, rfl, same.trans (lasting_dispatch host words s).symm⟩
  | run host words => exact ⟨app, rfl, same.trans (lasting_run host words s).symm⟩
  | elsewhere files => exact ⟨app, rfl, same⟩

/-- Made anew in their order, the registrations of a history are accepted, and the application is
then the one after the history but for what runs leave behind. -/
theorem exists_register_made {app : Application} (steps : List Step)
    (same : app.lasting = s.app.lasting) :
    ∃ app', (s.made steps).foldlM Application.register app = .ok app' ∧
      app'.lasting = (s.after steps).app.lasting := by
  induction steps generalizing s app with
  | nil => exact ⟨app, rfl, same⟩
  | cons next steps ih =>
    obtain ⟨middle, first, agree⟩ := exists_register_madeBy same next
    obtain ⟨app', rest, agree⟩ := ih agree
    refine ⟨app', ?_, agree⟩
    rw [made, List.foldlM_append]
    exact bind_eq_ok_iff.mpr ⟨middle, first, rest⟩

/-! ## 3. Runs after histories -/

-- A session about to run among some files, with nothing written and no replies so far.
def resume (s : Session) (files : Files) : Session :=
  { s with world := { s.world with files, out := "", err := "" }, replies := [] }

theorem shown_resume_congr {t : Session} (same : s.app.lasting = t.app.lasting) (files : Files)
    (host : Surroundings) (words : List String) :
    (s.resume files).shown host words = (t.resume files).shown host words := by
  have alike : (s.resume files).begun.outward = (t.resume files).begun.outward :=
    congrArg (fun app => Session.mk app ⟨files, "", "", {}⟩ []) same
  rw [← shown_begun_outward, alike, shown_begun_outward]

/-- After two histories in which the same registrations were made, in the same order, a run among
the same files and surroundings shows the same: it gives the same exit code, writes the same texts
and leaves the same files, and if it comes to a handler, it calls the same one with the same values
and positional arguments and gives it the same replies. -/
theorem shown_after_eq (s : Session) (before before' : List Step)
    (same : s.made before = s.made before') (files : Files) (host : Surroundings)
    (words : List String) :
    ((s.after before).resume files).shown host words =
      ((s.after before').resume files).shown host words := by
  have same_start : s.app.lasting = s.app.lasting := rfl
  obtain ⟨app, registered, agree⟩ := exists_register_made before same_start
  obtain ⟨app', registered', agree'⟩ := exists_register_made before' same_start
  have apps : app = app' := by
    rw [same, registered'] at registered
    exact (Except.ok.inj registered).symm
  refine shown_resume_congr ?_ files host words
  rw [← agree, ← agree', apps]

-- One history ends with a quiet run and a failed reading, in the other a registration is refused.
theorem shown_after_quiet_run :
    let host : Surroundings := ⟨.empty, false, 0, .empty, .empty⟩
    let s : Session := ⟨.fresh "app" "1.0.0" "" .empty false, .fresh ⟨.directory [], []⟩, []⟩
    let name : Step := .register (.flag { long := "name", scope := "greet", default := "Ann" })
    let greet : Step := .register (.command ⟨"greet", "", some ⟨none, .handler
      (.ask (.value "name" "") fun _ => .done .nothing)⟩⟩)
    let before := [name, greet, .run host ["greet", "--name=Bo", "--quiet"],
      .parse "greet" ["--name", "Cy", "--nope"]]
    let before' := [.dispatch host ["commands"], name, .elsewhere ⟨.directory [], ["tmp"]⟩, name,
      greet]
    s.made before = s.made before' ∧
      (s.after before).app.quiet = true ∧ (s.after before').app.quiet = false ∧
      ∀ files, ((s.after before).resume files).shown host ["greet"] =
        ((s.after before').resume files).shown host ["greet"] :=
  ⟨by rfl, by decide +kernel, by decide +kernel,
    fun files => shown_after_eq _ _ _ (by rfl) files _ _⟩

end Session

end Toolsmith
