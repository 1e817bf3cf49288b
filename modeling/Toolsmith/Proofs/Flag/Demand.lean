import Toolsmith.Proofs.Flag.Confinement
/-!
# Required flags that no token names

Nothing but a token whose key denotes a flag stores a value under the flag's name while a command
line is read (`Built.get?_scan`).  So without a default a required flag that is not named is not
set in the end, and the command line fails; unless a flag that is hidden from the command has left
its own default under the same name (`demanded_iff`).
-/

namespace Toolsmith

namespace Registry

/-- No key in some tokens denotes a flag. -/
def Unnamed (registry : Registry) (command : String) (d : Definition) (tokens : List String) :
    Prop :=
  ∀ key ∈ keysIn tokens, resolve registry.definitions command key ≠ .ok d

variable {registry : Registry} {command : String} {files : Files} {d : Definition}
  {tokens : List String}

/-! ## 1. Values of flags that are not named -/

theorem Built.get?_scan (built : registry.Built) (hd : d ∈ registry.visible command)
    (unnamed : registry.Unnamed command d tokens) (reading : Reading) :
    (Reading.scan files registry.definitions command tokens reading).1.values.get? d.flag.long =
      reading.values.get? d.flag.long := by
  let Kept (r : Reading) : Prop := r.values.get? d.flag.long = reading.values.get? d.flag.long
  have store : ∀ key ∈ keysIn tokens, ∀ e, resolve registry.definitions command key = .ok e →
      ∀ value r, Kept r → Keeps Kept (fun _ => True) (r.store files e value) := by
    intro key hkey e resolved value r h
    have ne : d.flag.long ≠ e.flag.long := by
      intro same
      have : d = e := built.apart.eq_of_long_eq hd (mem_visible_of_resolve resolved) same
      exact unnamed key hkey (this ▸ resolved)
    exact ⟨(Reading.get?_store_of_ne r e value ne).trans h, fun _ _ => trivial⟩
  exact (scan_induction store (fun _ _ _ _ => trivial) (fun _ _ h => h) rfl).1

-- What the tokens do not name keeps the default of a hidden flag, if there is one.
theorem Built.get?_parse_of_unnamed (built : registry.Built) (hd : d ∈ registry.visible command)
    (empty : d.flag.default = "") (unnamed : registry.Unnamed command d tokens) :
    (registry.parse files command tokens).1.values.get? d.flag.long =
      registry.inherited command d.flag.long := by
  have start : (registry.start command).values.get? d.flag.long =
      registry.inherited command d.flag.long := by
    show (registry.defaults command).get? d.flag.long = _
    rw [get?_defaults, built.apart.lastDefault_visible hd, if_pos empty, Option.none_or]
  rw [values_parse, ← start]
  exact built.get?_scan hd unnamed (registry.start command)

/-! ## 2. Defaults of hidden flags -/

theorem lastDefault_eq_none_iff {definitions : List Definition} {long : String} :
    lastDefault definitions long = none ↔
      ∀ e ∈ definitions, e.flag.long = long → e.flag.default = "" := by
  simp [lastDefault]

theorem ne_empty_of_lastDefault {definitions : List Definition} {long default : String}
    (found : lastDefault definitions long = some default) : default ≠ "" := by
  obtain ⟨e, he, rfl⟩ := Option.map_eq_some_iff.mp found
  have named := List.find?_some he
  simp only [Bool.and_eq_true, decide_eq_true_eq] at named
  exact named.2

theorem inherited_eq_none_iff {long : String} :
    registry.inherited command long = none ↔
      ∀ e ∈ registry.definitions, e.flag.visibleTo command = false → e.flag.long = long →
        e.flag.default = "" := by
  simp only [inherited, lastDefault_eq_none_iff, hidden, List.mem_filter, Bool.not_eq_true',
    and_imp]

/-! ## 3. Required flags -/

-- A command line after which a required flag is not set fails.
theorem exists_failure_of_isSet_eq_false (hd : d ∈ registry.visible command)
    (required : d.flag.required = true)
    (unset : (registry.parse files command tokens).1.isSet d.flag.long = false) :
    ∃ failure, (registry.parse files command tokens).2 = some failure ∧
      ((registry.pass files command tokens).2 = none →
        ∃ long, failure = .usage (.missingFlag long)) := by
  cases passed : (registry.pass files command tokens).2 with
  | some failure =>
    refine ⟨failure, ?_, nofun⟩
    rw [parse_snd, passed, Option.some_or]
  | none =>
    cases missing : (registry.parse files command tokens).1.missing? command with
    | none =>
      have visible : d ∈ (registry.parse files command tokens).1.visible command := by
        simpa using hd
      have set := missing?_eq_none_iff.mp missing d visible required
      rw [unset] at set
      cases set
    | some fault =>
      obtain ⟨e, -, -, rfl⟩ := exists_of_missing? missing
      refine ⟨.usage (.missingFlag e.flag.long), ?_, fun _ => ⟨e.flag.long, rfl⟩⟩
      rw [parse_snd, passed, missing]
      rfl

/-- A required flag without a default is missed in every command line that does not name it, which
then fails, if and only if no flag of its long name that is hidden from the command has a
default. -/
theorem demanded_iff (built : registry.Built) (hd : d ∈ registry.visible command)
    (required : d.flag.required = true) (empty : d.flag.default = "") :
    (∀ tokens, registry.Unnamed command d tokens →
      (registry.parse files command tokens).1.isSet d.flag.long = false ∧
        ∃ failure, (registry.parse files command tokens).2 = some failure ∧
          ((registry.pass files command tokens).2 = none →
            ∃ long, failure = .usage (.missingFlag long))) ↔
      ∀ e ∈ registry.definitions, e.flag.visibleTo command = false →
        e.flag.long = d.flag.long → e.flag.default = "" := by
  rw [← inherited_eq_none_iff]
  constructor
  · intro missed
    have unnamed : registry.Unnamed command d [] := List.forall_mem_nil _
    have unset := (missed [] unnamed).1
    have stored : (registry.parse files command []).1.values.get? d.flag.long =
        registry.inherited command d.flag.long := built.get?_parse_of_unnamed hd empty unnamed
    cases inherits : registry.inherited command d.flag.long with
    | none => rfl
    | some default =>
      have set := isSet_iff.mpr ⟨default, stored.trans inherits, ne_empty_of_lastDefault inherits⟩
      rw [unset] at set
      cases set
  · intro none tokens unnamed
    have stored : (registry.parse files command tokens).1.values.get? d.flag.long =
        registry.inherited command d.flag.long := built.get?_parse_of_unnamed hd empty unnamed
    have unset : (registry.parse files command tokens).1.isSet d.flag.long = false := by
      rw [Bool.eq_false_iff, ne_eq, isSet_iff, stored, none]
      nofun
    exact ⟨unset, exists_failure_of_isSet_eq_false hd required unset⟩

/-! ## 4. Two commands with a token -/

def deployToken : Definition :=
  ⟨{ long := "token", scope := "deploy", required := true }, .text, ValueType.ofText_string⟩

def loginToken (default : String) : Definition :=
  ⟨{ long := "token", scope := "login", default }, .text, ValueType.ofText_string⟩

def deployAndLogin (default : String) : Registry :=
  { empty with
    definitions := [deployToken, loginToken default]
    values := seed .empty (loginToken default).flag }

theorem built_deployAndLogin (default : String) : Built (deployAndLogin default) := by
  have first : Built { empty with definitions := [deployToken] } :=
    Built.empty.register (show Registry.empty.register deployToken.flag = _ from rfl)
  refine first.register (register_eq_ok_iff.mpr ⟨loginToken default, rfl, ?_, rfl⟩)
  intro older holder
  obtain rfl : older = deployToken := List.mem_singleton.mp holder
  rfl

/-- Without a default of the other flag, the required one is missed. -/
theorem demanded_deployToken :
    Built (deployAndLogin "") ∧ deployToken ∈ (deployAndLogin "").visible "deploy" ∧
      deployToken.flag.required = true ∧ deployToken.flag.default = "" ∧
      ∀ line, (deployAndLogin "").Unnamed "deploy" deployToken line →
        ((deployAndLogin "").parse ⟨.directory [], []⟩ "deploy" line).1.isSet "token" = false ∧
          ∃ failure,
            ((deployAndLogin "").parse ⟨.directory [], []⟩ "deploy" line).2 = some failure ∧
            (((deployAndLogin "").pass ⟨.directory [], []⟩ "deploy" line).2 = none →
              ∃ long, failure = .usage (.missingFlag long)) :=
  ⟨built_deployAndLogin "", by decide, rfl, rfl,
    (demanded_iff (built_deployAndLogin "") (by decide) rfl rfl).mpr (by decide)⟩

/-- With one, the command line that does not name it is read to its end. -/
theorem guest_counts_as_deployToken :
    Built (deployAndLogin "guest") ∧ deployToken ∈ (deployAndLogin "guest").visible "deploy" ∧
      deployToken.flag.required = true ∧ deployToken.flag.default = "" ∧
      (deployAndLogin "guest").Unnamed "deploy" deployToken [] ∧
      ((deployAndLogin "guest").parse ⟨.directory [], []⟩ "deploy" []).2 = none ∧
      ((deployAndLogin "guest").parse ⟨.directory [], []⟩ "deploy" []).1.values =
        .ofList [("token", "guest")] :=
  ⟨built_deployAndLogin "guest", by decide, rfl, rfl, List.forall_mem_nil _, rfl, rfl⟩

end Registry

end Toolsmith
