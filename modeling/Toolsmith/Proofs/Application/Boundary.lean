import Toolsmith.Proofs.Application.History
import Toolsmith.Proofs.Flag.Confinement
/-!
# Failures before a handler is called

A run can fail in five places before it calls a handler (`Stop`).  Each of them leaves standard
output as it was and comes with failures of its own kinds, so what the user is told and the exit
code are known (`run_of_failure_before_call`).  The one thing that standard error may hold besides
is the record that a command is executed: a deferred handler is looked for after it.
-/

namespace Toolsmith

/-! ## 1. What fails in each place -/

theorem Registry.failure_of_parse {registry : Registry} {files : Files} {command : String}
    {tokens : List String} {failure : Failure}
    (failed : (registry.parse files command tokens).2 = some failure) :
    (∃ fault, failure = .usage fault) ∨ ∃ fault, failure = .validation fault := by
  rw [parse_snd, Option.or_eq_some_iff] at failed
  rcases failed with passed | ⟨-, late⟩
  · rcases failure_of_pass passed with ⟨_, fault, -, rfl⟩ | validation
    · exact .inl ⟨fault, rfl⟩
    · exact .inr validation
  · obtain ⟨fault, -, rfl⟩ := Option.map_eq_some_iff.mp late
    exact .inl ⟨fault, rfl⟩

-- Setting up a log changes the files and the setup.
theorem World.setUpLog_cases (world : World) (level : String) (file : Option String) :
    (∃ fault, world.setUpLog level file = (world, some (.validation fault))) ∨
      ∃ rank files place failure?, Log.threshold level = .ok rank ∧
        world.setUpLog level file =
          ({ world with files, log.setup := some ⟨rank, place⟩ }, failure?) ∧
        ∀ failure, failure? = some failure →
          (∃ fault, failure = .validation fault) ∨ ∃ fault, failure = .accident (.files fault) := by
  unfold setUpLog
  cases Log.threshold level with
  | error fault => exact .inl ⟨fault, rfl⟩
  | ok rank =>
    refine .inr ⟨rank, ?_⟩
    dsimp only
    split
    next => exact ⟨world.files, none, none, rfl, rfl, nofun⟩
    next text _ =>
      split
      next files reason path _ =>
        refine ⟨files, none, _, rfl, rfl, ?_⟩
        rintro _ ⟨⟩
        exact .inl ⟨_, rfl⟩
      next files fault _ _ =>
        refine ⟨files, none, _, rfl, rfl, ?_⟩
        rintro _ ⟨⟩
        exact .inr ⟨fault, rfl⟩
      next files _ =>
        split
        next fault _ =>
          refine ⟨files, none, _, rfl, rfl, ?_⟩
          rintro _ ⟨⟩
          exact .inr ⟨fault, rfl⟩
        next files place _ => exact ⟨files, some place, none, rfl, rfl, nofun⟩

/-- Whether the search for a deferred handler may run into a failure. -/
def Failure.ofSearch : Failure → Bool
  | .accident (.files _) => false
  | .internal _ | .accident _ => true
  | _ => false

theorem Deferred.ofSearch_of_resolve {H : Type} {modules : Modules H} {d : Deferred}
    {failure : Failure} (failed : d.resolve modules = .error failure) :
    failure.ofSearch = true := by
  unfold resolve at failed
  repeat' split at failed
  all_goals cases failed
  all_goals rfl

theorem Failure.kind_of_ofSearch {failure : Failure} (h : failure.ofSearch = true) :
    (∃ fault, failure = .internal fault) ∨ ∃ fault, failure = .accident fault := by
  cases failure with
  | internal fault => exact .inl ⟨fault, rfl⟩
  | accident fault => exact .inr ⟨fault, rfl⟩
  | _ => cases h

-- Only a deferred handler can be missing.
theorem Task.work_eq_error_iff {host : Surroundings} {task : Task} {failure : Failure} :
    task.work host = .error failure ↔
      ∃ d, task = .deferred d ∧ d.resolve host.modules = .error failure := by
  cases task with
  | builtin which => simp [work]
  | handler handler => simp [work]
  | deferred d =>
    cases resolved : d.resolve host.modules <;> simp [work, resolved, Except.map]

-- A missing hint and an empty one are the same to the user.
theorem Console.error_eq (message : String) (hint : Option String) :
    Console.error message hint =
      "Error: " ++ message ++ "\n" ++
        if hint.getD "" = "" then "" else "Hint: " ++ hint.getD "" ++ "\n" := by
  cases hint with
  | none => exact String.append_empty.symm
  | some hint => rfl

namespace Session

variable {host : Surroundings} {s t : Session} {word : String} {tokens : List String}
  {failure : Failure}

/-! ## 2. The places -/

/-- How a run can stop before it calls a handler, with the session at that moment and the
failure. -/
inductive Stop (host : Surroundings) (s : Session) (word : String) (tokens : List String) :
    Session → Failure → Prop
  /-- The first word is no command. -/
  | unknown (absent : s.app.commands.has word = false) :
    Stop host s word tokens s.begun (.usage (.unknownCommand word))
  /-- The other words cannot be read. -/
  | misread {flags : Registry} {failure : Failure} (known : s.app.commands.has word = true)
      (read : s.app.flags.parse s.world.files word tokens = (flags, some failure)) :
    Stop host s word tokens (s.entered word flags) failure
  /-- The log cannot be set up. -/
  | unprepared {flags : Registry} {ready : Session} {failure : Failure}
      (known : s.app.commands.has word = true)
      (read : s.app.flags.parse s.world.files word tokens = (flags, none))
      (prepared : (s.entered word flags).setUp host = (ready, some failure)) :
    Stop host s word tokens ready failure
  /-- The command has no handler. -/
  | unhandled {flags : Registry} {ready : Session} {handler : String}
      (known : s.app.commands.has word = true)
      (read : s.app.flags.parse s.world.files word tokens = (flags, none))
      (prepared : (s.entered word flags).setUp host = (ready, none))
      (absent : s.app.commands.handler? word = none) :
    Stop host s word tokens ready (.internal (.noHandler handler word))
  /-- The handler is looked for and not found. -/
  | unfound {flags : Registry} {ready : Session} {task : Callable Task} {deferred : Deferred}
      {failure : Failure} (known : s.app.commands.has word = true)
      (read : s.app.flags.parse s.world.files word tokens = (flags, none))
      (prepared : (s.entered word flags).setUp host = (ready, none))
      (found : s.app.commands.handler? word = some task) (late : task.handler = .deferred deferred)
      (missing : deferred.resolve host.modules = .error failure) :
    Stop host s word tokens
      (ready.record host "" .debug ("Executing command: " ++ word)) failure

/-- What setting up changes and what it keeps, once the command line of a command has been read. -/
structure Prepared (s : Session) (word : String) (flags : Registry) (ready : Session)
    (failure? : Option Failure) : Prop where
  lasting : ready.app.lasting = (s.entered word flags).app.lasting
  current : ready.app.current = some word
  out : ready.world.out = s.world.out
  err : ready.world.err = s.world.err
  setup : failure? = none → ∃ rank place, Log.threshold (levelName flags) = .ok rank ∧
    ready.world.log.setup = some ⟨rank, place⟩
  kind : ∀ failure, failure? = some failure →
    (∃ fault, failure = .validation fault) ∨ ∃ fault, failure = .accident (.files fault)

theorem prepared_of_setUp {flags : Registry} {ready : Session} {failure? : Option Failure}
    (done : (s.entered word flags).setUp host = (ready, failure?)) :
    Prepared s word flags ready failure? := by
  have lasting := lasting_setUp host (s.entered word flags)
  rw [done] at lasting
  have current : ready.app.current = some word := by simp [app_of_setUp done]
  rw [setUp_eq] at done
  have world : ready.world =
      (s.world.setUpLog (levelName flags) (some (flags.value "log-file"))).1 :=
    congrArg (fun outcome : Session × Option Failure => outcome.1.world) done.symm
  have failed : failure? =
      (s.world.setUpLog (levelName flags) (some (flags.value "log-file"))).2 :=
    congrArg Prod.snd done.symm
  rcases World.setUpLog_cases s.world (levelName flags) (some (flags.value "log-file")) with
    ⟨fault, outcome⟩ | ⟨rank, files, place, failure', read, outcome, kind⟩
  · rw [outcome] at world failed
    refine ⟨lasting, current, by rw [world], by rw [world], ?_, ?_⟩
    · rw [failed]
      nofun
    · rw [failed]
      rintro _ ⟨⟩
      exact .inl ⟨fault, rfl⟩
  · rw [outcome] at world failed
    refine ⟨lasting, current, by rw [world], by rw [world], ?_, failed ▸ kind⟩
    intro _
    exact ⟨rank, place, read, by rw [world]⟩

theorem stop_of_executeVia {ready : Session} {flags : Registry}
    (known : s.app.commands.has word = true)
    (read : s.app.flags.parse s.world.files word tokens = (flags, none))
    (prepared : (s.entered word flags).setUp host = (ready, none))
    (h : executeVia stopAt host word ready = .ok (t, .error failure)) :
    Stop host s word tokens t failure := by
  unfold executeVia performVia at h
  rw [commands_of_setUp prepared] at h
  cases found : s.app.commands.handler? word with
  | none =>
    rw [found] at h
    cases h
    exact .unhandled known read prepared found
  | some task =>
    rw [found] at h
    dsimp only at h
    cases amounts : task.handler.work host with
    | ok work =>
      rw [amounts] at h
      cases h
    | error fault =>
      obtain ⟨deferred, late, missing⟩ := Task.work_eq_error_iff.mp amounts
      rw [amounts] at h
      cases h
      exact .unfound known read prepared found late missing

-- A run that fails without a call has stopped in one of the places.
theorem stop_of_approach {words : List String}
    (h : s.approach host words = .ok (t, .error failure)) :
    ∃ word tokens, words = word :: tokens ∧ Stop host s word tokens t failure := by
  unfold approach dispatchVia at h
  cases words with
  | nil => cases h
  | cons word tokens =>
    refine ⟨word, tokens, rfl, ?_⟩
    dsimp only at h
    split at h
    next => cases h
    next =>
      split at h
      next => cases h
      next =>
        split at h
        next known =>
          unfold dispatchCommandVia at h
          split at h
          next flags fault read =>
            cases h
            exact .misread known read
          next flags read =>
            split at h
            next ready fault prepared =>
              cases h
              exact .unprepared known read prepared
            next ready prepared =>
              split at h
              next => cases h
              next => exact stop_of_executeVia known read prepared h
        next unknown =>
          cases h
          exact .unknown (Bool.eq_false_iff.mpr unknown)

/-! ## 3. The session in which a run stops -/

/-- Why the handler of a command cannot be had, if it is a deferred one. -/
def lost? (host : Surroundings) (word : String) (s : Session) : Option Failure :=
  match s.app.commands.handler? word with
  | some ⟨_, .deferred deferred⟩ =>
    match deferred.resolve host.modules with
    | .error failure => some failure
    | .ok _ => none
  | _ => none

def talkative (word : String) (tokens : List String) (s : Session) : Bool :=
  (s.app.flags.parse s.world.files word tokens).1.isTrue "verbose"

/-- What standard error holds of a run that fails, before the failure is told. -/
def trace (host : Surroundings) (word : String) (tokens : List String) (failure : Failure)
    (s : Session) : String :=
  if s.lost? host word = some failure ∧ s.talkative word tokens = true then
    Log.line host.clock .debug ("Executing command: " ++ word)
  else ""

-- Debugging records are shown in talkative runs only.
theorem shown_debug {flags : Registry} {rank : Nat} {place : Option (List String)}
    (read : Log.threshold (levelName flags) = .ok rank) (clock : Int) (message : String) :
    Log.shown (some ⟨rank, place⟩) clock .debug message =
      if flags.isTrue "verbose" = true then Log.line clock .debug message else "" := by
  have debug : Log.threshold "debug" = .ok 10 := rfl
  have none : Log.threshold "none" = .ok 60 := rfl
  have info : Log.threshold "info" = .ok 20 := rfl
  unfold levelName at read
  by_cases verbose : flags.isTrue "verbose" = true
  · rw [if_pos verbose] at read ⊢
    obtain rfl := Except.ok.inj (debug.symm.trans read)
    rfl
  · rw [if_neg verbose] at read ⊢
    by_cases quiet : flags.isTrue "quiet" = true
    · rw [if_pos quiet] at read
      obtain rfl := Except.ok.inj (none.symm.trans read)
      rfl
    · rw [if_neg quiet] at read
      obtain rfl := Except.ok.inj (info.symm.trans read)
      rfl

theorem lasting_of_parse {flags : Registry} {failure? : Option Failure}
    (read : s.app.flags.parse s.world.files word tokens = (flags, failure?)) :
    (s.entered word flags).app.lasting = s.app.lasting := by
  have unread := unread_parse s.app.flags s.world.files word tokens
  rw [read] at unread
  exact lasting_entered word unread

-- The help is that of the application before the run, and it is on the command if there is one.
theorem Stop.app (stop : Stop host s word tokens t failure) :
    t.app.lasting = s.app.lasting ∧
      t.app.current = if s.app.commands.has word then some word else none := by
  cases stop with
  | unknown absent =>
    rw [absent]
    exact ⟨rfl, rfl⟩
  | misread known read =>
    rw [known]
    exact ⟨lasting_of_parse read, rfl⟩
  | unprepared known read done | unhandled known read done | unfound known read done =>
    have prepared := prepared_of_setUp done
    rw [known]
    exact ⟨prepared.lasting.trans (lasting_of_parse read), prepared.current⟩

theorem Stop.kind (stop : Stop host s word tokens t failure) :
    (∃ fault, failure = .usage fault) ∨ (∃ fault, failure = .validation fault) ∨
      (∃ fault, failure = .internal fault) ∨ ∃ fault, failure = .accident fault := by
  cases stop with
  | unknown absent => exact .inl ⟨_, rfl⟩
  | misread known read =>
    rcases Registry.failure_of_parse (congrArg Prod.snd read) with usage | validation
    · exact .inl usage
    · exact .inr (.inl validation)
  | unprepared known read prepared =>
    rcases (prepared_of_setUp prepared).kind failure rfl with validation | ⟨fault, rfl⟩
    · exact .inr (.inl validation)
    · exact .inr (.inr (.inr ⟨_, rfl⟩))
  | unhandled known read prepared absent => exact .inr (.inr (.inl ⟨_, rfl⟩))
  | unfound known read prepared found late missing =>
    exact .inr (.inr (Failure.kind_of_ofSearch (Deferred.ofSearch_of_resolve missing)))

theorem lost?_eq_some_iff :
    s.lost? host word = some failure ↔
      ∃ task deferred, s.app.commands.handler? word = some task ∧
        task.handler = .deferred deferred ∧ deferred.resolve host.modules = .error failure := by
  unfold lost?
  cases found : s.app.commands.handler? word with
  | none => simp
  | some task =>
    obtain ⟨label, which | handler | deferred⟩ := task
    · simp
    · simp
    · cases resolved : deferred.resolve host.modules <;> simp [resolved]

-- Nothing else fails as the search for a handler does.
theorem trace_of_ofSearch_eq_false (other : failure.ofSearch = false) :
    s.trace host word tokens failure = "" := by
  refine if_neg ?_
  rintro ⟨lost, -⟩
  obtain ⟨task, deferred, -, -, missing⟩ := lost?_eq_some_iff.mp lost
  rw [Deferred.ofSearch_of_resolve missing] at other
  cases other

theorem Stop.world (stop : Stop host s word tokens t failure) :
    t.world.out = s.world.out ∧
      t.world.err = s.world.err ++ s.trace host word tokens failure := by
  cases stop with
  | unknown absent =>
    have other : (Failure.usage (.unknownCommand word)).ofSearch = false := rfl
    simp [trace_of_ofSearch_eq_false other]
  | misread known read =>
    have other : failure.ofSearch = false := by
      rcases Registry.failure_of_parse (congrArg Prod.snd read) with ⟨_, rfl⟩ | ⟨_, rfl⟩ <;> rfl
    simp [trace_of_ofSearch_eq_false other]
  | unprepared known read done =>
    have prepared := prepared_of_setUp done
    have other : failure.ofSearch = false := by
      rcases prepared.kind failure rfl with ⟨_, rfl⟩ | ⟨_, rfl⟩ <;> rfl
    simp [trace_of_ofSearch_eq_false other, prepared.out, prepared.err]
  | unhandled known read done absent =>
    have prepared := prepared_of_setUp done
    have silent : ∀ failure, s.trace host word tokens failure = "" := by
      intro failure
      refine if_neg ?_
      rintro ⟨lost, -⟩
      obtain ⟨task, -, found, -⟩ := lost?_eq_some_iff.mp lost
      rw [absent] at found
      cases found
    simp [silent, prepared.out, prepared.err]
  | @unfound flags ready task deferred failure known read done found late missing =>
    have prepared := prepared_of_setUp done
    obtain ⟨rank, place, threshold, setup⟩ := prepared.setup rfl
    have lost : s.lost? host word = some failure :=
      lost?_eq_some_iff.mpr ⟨task, deferred, found, late, missing⟩
    have talkative : s.talkative word tokens = flags.isTrue "verbose" := by
      rw [talkative, read]
    refine ⟨by simp [prepared.out], ?_⟩
    simp [trace, lost, talkative, prepared.err, setup, shown_debug threshold]

/-! ## 4. The report -/

/-- What the user is told about a failure: the message behind its word, below it the advice if there
is any, and after a failure of usage an empty line and some help. -/
def notice (help : String) (failure : Failure) : String :=
  let told : String × String :=
    match failure with
    | .accident fault =>
      ("Unexpected error. Please report this issue.", fault.label ++ ": " ++ fault.text)
    | failure => (failure.message, failure.hint?.getD "")
  "Error: " ++ told.1 ++ "\n" ++ (if told.2 = "" then "" else "Hint: " ++ told.2 ++ "\n") ++
    if failure.kind? = some .usage then "\n" ++ Console.ended help else ""

theorem report_said (handled : failure ≠ .interrupt) :
    (t.report failure).world.out = t.world.out ∧
      (t.report failure).world.err =
        t.world.err ++ notice (t.app.helpFor (t.app.current.getD "")) failure := by
  cases failure with
  | interrupt => exact absurd rfl handled
  | accident fault =>
    simp [report, notice, Console.error_eq, Console.unforeseen, Failure.kind?]
  | _ =>
    have empty : Console.ended "" = "\n" := by decide
    unfold report notice
    dsimp only
    rw [Console.error_eq]
    split <;> simp [empty, String.append_assoc]

/-- The help on a word: on the command of that name if it is registered and the name is not empty,
else on the whole application. -/
def helpOn (word : String) (app : Application) : String :=
  if app.commands.has word = true ∧ word ≠ "" then app.commandHelp word else app.globalHelp

theorem Stop.helpFor (stop : Stop host s word tokens t failure) :
    t.app.helpFor (t.app.current.getD "") = helpOn word s.app := by
  obtain ⟨lasting, current⟩ := stop.app
  have same : ∀ topic, t.app.helpFor topic = s.app.helpFor topic :=
    fun topic => congrArg (fun app => app.helpFor topic) lasting
  rw [same, current, helpOn]
  by_cases known : s.app.commands.has word = true
  · simp [Application.helpFor, known]
  · simp [Application.helpFor, known]

def nowhere : Surroundings := ⟨.empty, false, 0, .empty, .empty⟩

def seeking : Session :=
  ⟨{ Application.fresh "app" "1.0.0" "" .empty false with
      commands := ⟨[⟨"greet", "",
        some ⟨none, .deferred ⟨"greet", "_commands.greet", "cmd_greet"⟩⟩⟩], .empty⟩ },
    .fresh ⟨.directory [], []⟩, []⟩

end Session

end Toolsmith
