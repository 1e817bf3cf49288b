import Toolsmith.Proofs.Flag.Reading
/-!
# Registries in use

A registry is used by registering flags, of which some are refused, by declaring groups, and by
reading command lines, in any order.  Each of these acts adds to the definitions exactly the flag
that it registers, if it registers one (`definitions_act`), and keeps the definitions free of
clashes (`Apart.act`).  So after any number of acts the names of the flags that one command sees are
all different, and the definitions tell which registrations were accepted (`orderly_acted`).
-/

namespace Toolsmith.Registry

/-! ## 1. Acts -/

inductive Act
  | register (flag : Flag)
  | exclude (group : String) (longs : List String)
  | parse (files : Files) (command : String) (tokens : List String)

/-- What an act makes of a registry, and its failure if it fails. -/
def act (registry : Registry) : Act → Registry × Option Failure
  | .register flag =>
    match registry.register flag with
    | .ok next => (next, none)
    | .error fault => (registry, some (.internal fault))
  | .exclude group longs => (registry.exclude group longs, none)
  | .parse files command tokens => registry.parse files command tokens

def acted (registry : Registry) (acts : List Act) : Registry :=
  acts.foldl (fun registry next => (registry.act next).1) registry

/-- The flag that an act registers, if it is a registration and does not fail. -/
def registeredBy (registry : Registry) : Act → List Flag
  | .register flag => if (registry.act (.register flag)).2.isNone then [flag] else []
  | _ => []

def registered (registry : Registry) : List Act → List Flag
  | [] => []
  | next :: acts => registry.registeredBy next ++ (registry.act next).1.registered acts

def initial (builtins : Bool) : Registry := if builtins then withBuiltins else empty

/-! ## 2. One act -/

variable {registry registry' : Registry} {flag : Flag}

theorem act_register_of_ok (accepted : registry.register flag = .ok registry') :
    registry.act (.register flag) = (registry', none) := by
  simp only [act, accepted]

theorem act_register_of_error {fault : InternalFault}
    (refused : registry.register flag = .error fault) :
    registry.act (.register flag) = (registry, some (.internal fault)) := by
  simp only [act, refused]

theorem Apart.act (apart : registry.Apart) (next : Act) : (registry.act next).1.Apart := by
  cases next with
  | register flag =>
    cases accepted : registry.register flag with
    | ok registry' =>
      rw [act_register_of_ok accepted]
      exact apart.register accepted
    | error fault =>
      rw [act_register_of_error accepted]
      exact apart
  | exclude group longs => exact apart
  | parse files command tokens =>
    show (registry.parse files command tokens).1.Apart
    unfold Apart
    rw [definitions_parse]
    exact apart

theorem definitions_act (registry : Registry) (next : Act) :
    (registry.act next).1.definitions.map Definition.flag =
      registry.definitions.map Definition.flag ++ registry.registeredBy next := by
  cases next with
  | register flag =>
    show _ = _ ++ if (registry.act (.register flag)).2.isNone then [flag] else []
    cases accepted : registry.register flag with
    | ok registry' =>
      rw [act_register_of_ok accepted]
      obtain ⟨d, rfl, -, rfl⟩ := register_eq_ok_iff.mp accepted
      exact List.map_append
    | error fault =>
      rw [act_register_of_error accepted]
      exact (List.append_nil _).symm
  | exclude group longs => exact (List.append_nil _).symm
  | parse files command tokens =>
    simp [act, registeredBy]

-- A refused registration has changed nothing, and there was a reason for it.
theorem act_register_of_failure {failure : Failure}
    (failed : (registry.act (.register flag)).2 = some failure) :
    (registry.act (.register flag)).1 = registry ∧
      ((∀ type, ValueType.ofText flag.type ≠ .ok type) ∨
        ∃ older ∈ registry.definitions, Flag.clash? older.flag flag ≠ none) := by
  cases refused : registry.register flag with
  | ok registry' =>
    rw [act_register_of_ok refused] at failed
    cases failed
  | error fault =>
    rw [act_register_of_error refused]
    refine ⟨rfl, ?_⟩
    by_contra fits
    rw [not_or, not_forall, not_exists] at fits
    obtain ⟨⟨type, typed⟩, free⟩ := fits
    have type_eq : ValueType.ofText flag.type = .ok type := not_not.mp typed
    have accepted := register_eq_ok_iff.mpr ⟨⟨flag, type, type_eq⟩, rfl,
      fun older holder => not_not.mp fun taken => free older ⟨holder, taken⟩, rfl⟩
    rw [refused] at accepted
    cases accepted

/-! ## 3. Any number of acts -/

theorem apart_initial (builtins : Bool) : (initial builtins).Apart := by
  cases builtins with
  | false => exact List.Pairwise.nil
  | true => exact built_withBuiltins.apart

theorem Apart.acted (apart : registry.Apart) (acts : List Act) : (registry.acted acts).Apart := by
  induction acts generalizing registry with
  | nil => exact apart
  | cons next acts ih => exact ih (apart.act next)

theorem definitions_acted (registry : Registry) (acts : List Act) :
    (registry.acted acts).definitions.map Definition.flag =
      registry.definitions.map Definition.flag ++ registry.registered acts := by
  induction acts generalizing registry with
  | nil => exact (List.append_nil _).symm
  | cons next acts ih =>
    show ((registry.act next).1.acted acts).definitions.map Definition.flag = _
    rw [ih, definitions_act, List.append_assoc]
    rfl

/-! ## 4. Names -/

theorem Apart.nodup_longs (apart : registry.Apart) (command : String) :
    ((registry.visible command).map fun d => d.flag.long).Nodup := by
  rw [List.Nodup, List.pairwise_map]
  exact (apart.pairwise_visible command).imp fun names => names.1

theorem Apart.nodup_shorts (apart : registry.Apart) (command : String) :
    (((registry.visible command).map fun d => d.flag.short).filter (· ≠ "")).Nodup := by
  have shorts : ((registry.visible command).map fun d => d.flag.short).Pairwise
      fun older short => short ≠ "" → older ≠ short := by
    rw [List.pairwise_map]
    exact (apart.pairwise_visible command).imp fun names => names.2
  refine (shorts.filter (· ≠ "")).imp_of_mem ?_
  intro older short _ named differ
  exact differ (by simpa using (List.mem_filter.mp named).2)

/-- After any acts, of which some may have failed, the flags that a command sees have different long
names and, where they have one, different short names.  The type of every flag can be read.  The
flags are the ones from the beginning and then those of the registrations that were accepted, in
their order.  A registration that fails now changes nothing, and it fails for a type that cannot be
read or for an older flag that clashes with it. -/
theorem orderly_acted (builtins : Bool) (acts : List Act) :
    let registry := (initial builtins).acted acts
    (∀ command, ((registry.visible command).map fun d => d.flag.long).Nodup ∧
        (((registry.visible command).map fun d => d.flag.short).filter (· ≠ "")).Nodup) ∧
      (∀ d ∈ registry.definitions, ∃ type, ValueType.ofText d.flag.type = .ok type) ∧
      registry.definitions.map Definition.flag =
        (if builtins then Flag.builtins else []) ++ (initial builtins).registered acts ∧
      ∀ flag failure, (registry.act (.register flag)).2 = some failure →
        (registry.act (.register flag)).1 = registry ∧
          ((∀ type, ValueType.ofText flag.type ≠ .ok type) ∨
            ∃ older ∈ registry.definitions, Flag.clash? older.flag flag ≠ none) := by
  intro registry
  have apart : registry.Apart := (apart_initial builtins).acted acts
  refine ⟨fun command => ⟨apart.nodup_longs command, apart.nodup_shorts command⟩, ?_, ?_, ?_⟩
  · intro d _
    exact ⟨d.type, d.type_eq⟩
  · rw [definitions_acted]
    cases builtins <;> rfl
  · intro flag failure failed
    exact act_register_of_failure failed

end Toolsmith.Registry
