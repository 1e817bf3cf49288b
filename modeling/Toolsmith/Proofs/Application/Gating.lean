import Toolsmith.Proofs.Application.Session
/-!
# What has happened when a handler is called

A run calls at most one handler, and when it does, the command line has been read to its end: every
required flag is set, no group has two flags set, and help is not asked for
(`calls_length_le_one_and_gated`).  So no handler sees a command line that is read in part.
-/

namespace Toolsmith.Session

variable {host : Surroundings} {words : List String} {s : Session} {call : Call}

/-- The moment of a call in a run: the first word is a registered command, all words after it have
been read, and what the flags hold then is in order. -/
structure Gated (words : List String) (s : Session) (call : Call) : Prop where
  known : call.app.commands.has call.command = true
  read : ∃ tokens, words = call.command :: tokens ∧
    s.app.flags.parse s.world.files call.command tokens = (call.app.flags, none)
  required : ∀ d ∈ call.app.flags.visible call.command, d.flag.required = true →
    ∃ value, call.app.flags.values.get? d.flag.long = some value ∧ value ≠ ""
  exclusive : ∀ longs ∈ call.app.flags.groups.values,
    (longs.filter fun long => call.app.flags.isSet long).length ≤ 1
  unasked : call.app.flags.isTrue "help" = false

theorem mem_calls_iff :
    call ∈ s.calls host words ↔
      ∃ t, s.approach host words = .error (call.command, call.work, t) ∧ call.app = t.app := by
  rw [calls_eq]
  cases s.approach host words with
  | ok outcome => simp
  | error first =>
    obtain ⟨command, work, t⟩ := first
    obtain ⟨command', work', app⟩ := call
    simp only [List.mem_singleton, Call.mk.injEq, Except.error.injEq, Prod.mk.injEq]
    constructor
    · rintro ⟨rfl, rfl, rfl⟩
      exact ⟨t, ⟨rfl, rfl, rfl⟩, rfl⟩
    · rintro ⟨_, ⟨rfl, rfl, rfl⟩, rfl⟩
      exact ⟨rfl, rfl, rfl⟩

theorem gated_of_mem_calls (hcall : call ∈ s.calls host words) : Gated words s call := by
  obtain ⟨t, first, app⟩ := mem_calls_iff.mp hcall
  obtain ⟨tokens, flags, ready, task, line, -, -, known, read, prepared, unasked, -, -, rfl⟩ :=
    approach_eq_error_iff.mp first
  -- Between the reading and the call nothing touches the flags or the commands.
  have app_flags : call.app.flags = flags := by simp [app, flags_of_setUp prepared]
  have app_commands : call.app.commands = s.app.commands := by
    simp [app, commands_of_setUp prepared]
  obtain ⟨-, complete, exclusive⟩ := Registry.parse_snd_eq_none_iff.mp (congrArg Prod.snd read)
  rw [read] at complete exclusive
  refine ⟨?_, ⟨tokens, line, ?_⟩, ?_, ?_, ?_⟩
  · rw [app_commands, known]
  · rw [app_flags, read]
  · rw [app_flags]
    intro d hd required
    exact Registry.isSet_iff.mp (Registry.missing?_eq_none_iff.mp complete d hd required)
  · rw [app_flags]
    exact Registry.conflict?_eq_none_iff.mp exclusive
  · rw [app_flags, ← flags_of_setUp prepared]
    exact unasked

/-- A run in which the calls of handlers are noted ends as the run does and has at most one call.
At that moment the first word is a registered command, all words after it have been read, every
required flag that the command sees is set, no group has two flags set, and help is not asked
for. -/
theorem calls_length_le_one_and_gated (host : Surroundings) (words : List String) (s : Session) :
    (runVia (noted host) host words s).run [] = (s.run host words, s.calls host words) ∧
      (s.calls host words).length ≤ 1 ∧
      ∀ call ∈ s.calls host words, Gated words s call := by
  refine ⟨Prod.ext (run_noted host words s) rfl, ?_, fun _ => gated_of_mem_calls⟩
  rw [calls_eq]
  cases s.approach host words with
  | ok outcome => exact Nat.zero_le 1
  | error first => exact Nat.le_refl 1

def greeting : Session :=
  let required : Definition :=
    ⟨{ long := "name", short := "n", required := true, scope := "greet" }, .text, rfl⟩
  let other : Definition := ⟨{ long := "loud", type := "bool", scope := "greet" }, .boolean, rfl⟩
  ⟨{ Application.fresh "app" "1.0.0" "" .empty false with
      flags := ({ Registry.withShell with
        definitions := Registry.withShell.definitions ++ [required, other] }).exclude "tone"
          ["quiet", "loud"]
      commands := ⟨[⟨"greet", "", some ⟨none, .handler (.done .nothing)⟩⟩], .empty⟩ },
    .fresh ⟨.directory [], []⟩, []⟩

theorem gated_greeting :
    let host : Surroundings := ⟨.empty, false, 0, .empty, .empty⟩
    ∃ call ∈ greeting.calls host ["greet", "-n", "Bo", "there", "--loud=on"],
      call.command = "greet" ∧ call.work = .handler (.done .nothing) ∧
        call.app.flags.values = .ofList [("name", "Bo"), ("loud", "true")] ∧
        call.app.flags.positionals = ["there"] ∧
        Gated ["greet", "-n", "Bo", "there", "--loud=on"] greeting call :=
  ⟨_, .head _, rfl, rfl, rfl, rfl,
    (calls_length_le_one_and_gated _ _ greeting).2.2 _ (.head _)⟩

end Toolsmith.Session
