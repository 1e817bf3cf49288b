import Toolsmith.Proofs.Flag.Reading
/-!
# What the flags of other commands can change

Two registries in which a command sees the same flags and the same groups may differ in all that
is hidden from it.  Reading a command line for the command ends alike on both, whatever the
tokens are, exactly if under each name of a visible flag without a default the hidden flags leave
the same default (`outcome_alike_iff`).  So a hidden default is the one thing that comes through.
-/

namespace Toolsmith

/-! ## 1. Readings that agree -/

/-- Two readings agree on some flags: their values under the names of these flags are the same,
and so are their positional arguments. -/
structure Reading.Agree (flags : List Definition) (a b : Reading) : Prop where
  value : ∀ d ∈ flags, a.values.get? d.flag.long = b.values.get? d.flag.long
  positionals : a.positionals = b.positionals

/-- Two outcomes are alike for some flags: what has been read agrees, and either nothing failed
on either side or the two failures are of one kind. -/
structure Outcome.Alike (flags : List Definition) (a b : Outcome) : Prop where
  reading : Reading.Agree flags a.1 b.1
  failure : a.2.map Failure.kind? = b.2.map Failure.kind?

def Registry.lastReading (registry : Registry) : Reading :=
  ⟨registry.values, registry.positionals⟩

def Registry.outcome (registry : Registry) (files : Files) (command : String)
    (tokens : List String) : Outcome :=
  (registry.parse files command tokens).map Registry.lastReading id

/-! ## 2. Steps -/

variable {files : Files} {command : String} {flags : List Definition} {a b : Reading}

theorem Reading.Agree.put (agree : Reading.Agree flags a b) (long value : String) :
    Reading.Agree flags { a with values := a.values.put long value }
      { b with values := b.values.put long value } where
  value := by
    intro d hd
    by_cases same : d.flag.long = long
    · simp [same]
    · simp only [Table.get?_put_of_ne _ _ same]
      exact agree.value d hd
  positionals := agree.positionals

theorem Reading.Agree.store (agree : Reading.Agree flags a b) (d : Definition) (value : String) :
    Outcome.Alike flags (a.store files d value) (b.store files d value) := by
  unfold Reading.store
  cases accept files d.flag.long d.type value with
  | ok v => exact ⟨agree.put _ _, rfl⟩
  | error fault => exact ⟨agree, rfl⟩

-- Alike outcomes stay alike through steps that take agreeing readings to alike outcomes.
theorem Outcome.Alike.followedBy {o₁ o₂ : Outcome} {next₁ next₂ : Reading → Outcome}
    (alike : Outcome.Alike flags o₁ o₂)
    (next : ∀ {a b}, Reading.Agree flags a b → Outcome.Alike flags (next₁ a) (next₂ b)) :
    Outcome.Alike flags (Reading.followedBy o₁ next₁) (Reading.followedBy o₂ next₂) := by
  obtain ⟨a, f⟩ := o₁
  obtain ⟨b, g⟩ := o₂
  obtain ⟨agree, kinds⟩ := alike
  cases f with
  | none =>
    obtain rfl : g = none := by simpa using kinds.symm
    exact next agree
  | some f =>
    cases g with
    | none => simp at kinds
    | some g => exact ⟨agree, kinds⟩

section Resolving

variable {r₁ r₂ : Registry} (same : r₁.visible command = r₂.visible command)
include same

-- A key denotes the same flag on both sides, or none on either.
theorem resolve_of_visible_eq (key : String) :
    (∃ d, resolve r₁.definitions command key = .ok d ∧
        resolve r₂.definitions command key = .ok d) ∨
      ∃ f₁ f₂, resolve r₁.definitions command key = .error f₁ ∧
        resolve r₂.definitions command key = .error f₂ := by
  cases found : (r₁.visible command).find? fun d => d.flag.answersTo key with
  | some d =>
    exact .inl ⟨d, Registry.resolve_eq_ok_iff.mpr found,
      Registry.resolve_eq_ok_iff.mpr (same ▸ found)⟩
  | none =>
    obtain ⟨f₁, h₁⟩ := Registry.exists_resolve_eq_error_iff.mpr found
    obtain ⟨f₂, h₂⟩ := Registry.exists_resolve_eq_error_iff.mpr (same ▸ found)
    exact .inr ⟨f₁, f₂, h₁, h₂⟩

theorem Reading.Agree.assign (agree : Reading.Agree flags a b) (key value : String) :
    Outcome.Alike flags (a.assign files r₁.definitions command key value)
      (b.assign files r₂.definitions command key value) := by
  unfold Reading.assign
  rcases resolve_of_visible_eq same key with ⟨d, h₁, h₂⟩ | ⟨f₁, f₂, h₁, h₂⟩
  · rw [h₁, h₂]
    exact agree.store d value
  · rw [h₁, h₂]
    exact ⟨agree, rfl⟩

theorem Reading.Agree.assignAll (keys : List Char) {a b : Reading}
    (agree : Reading.Agree flags a b) :
    Outcome.Alike flags (Reading.assignAll files r₁.definitions command keys a)
      (Reading.assignAll files r₂.definitions command keys b) := by
  induction keys generalizing a b with
  | nil => exact ⟨agree, rfl⟩
  | cons key keys ih => exact (agree.assign same _ _).followedBy ih

/-- The pass over the tokens: the induction goes along its recursion, in which a bare key may take
the token after it. -/
theorem Reading.Agree.scan (tokens : List String) {a b : Reading}
    (agree : Reading.Agree flags a b) :
    Outcome.Alike flags (Reading.scan files r₁.definitions command tokens a)
      (Reading.scan files r₂.definitions command tokens b) := by
  match tokens with
  | [] => exact ⟨agree, rfl⟩
  | token :: tokens =>
    cases shape : Token.ofText token with
    | assignment key value =>
      rw [Reading.scan_assignment shape, Reading.scan_assignment shape]
      exact (agree.assign same key value).followedBy (Reading.Agree.scan tokens)
    | cluster keys =>
      rw [Reading.scan_cluster shape, Reading.scan_cluster shape]
      exact (agree.assignAll same keys).followedBy (Reading.Agree.scan tokens)
    | positional =>
      rw [Reading.scan_positional shape, Reading.scan_positional shape]
      refine Reading.Agree.scan tokens ⟨agree.value, ?_⟩
      rw [agree.positionals]
    | bare key =>
      rcases resolve_of_visible_eq same key with ⟨d, h₁, h₂⟩ | ⟨f₁, f₂, h₁, h₂⟩
      · rw [Reading.scan_bare shape h₁, Reading.scan_bare shape h₂]
        exact (agree.store d _).followedBy (Reading.Agree.scan (d.taken tokens).2)
      · rw [Reading.scan_unresolved shape h₁, Reading.scan_unresolved shape h₂]
        exact ⟨agree, rfl⟩
termination_by tokens.length
decreasing_by
  all_goals simp only [List.length_cons]
  all_goals first | omega | exact Nat.lt_succ_of_le (d.length_taken_le tokens)

end Resolving

/-! ## 3. Whole command lines -/

namespace Registry

variable {r₁ r₂ : Registry}

theorem isSet_of_agree (agree : Reading.Agree flags r₁.lastReading r₂.lastReading)
    {d : Definition} (hd : d ∈ flags) : r₁.isSet d.flag.long = r₂.isSet d.flag.long := by
  have value : r₁.values.get? d.flag.long = r₂.values.get? d.flag.long := agree.value d hd
  unfold isSet Registry.value
  rw [value]

theorem missing?_of_agree (same : r₁.visible command = r₂.visible command)
    (agree : Reading.Agree (r₁.visible command) r₁.lastReading r₂.lastReading) :
    r₁.missing? command = r₂.missing? command := by
  unfold missing?
  rw [← same]
  refine findSome?_congr ?_
  intro d hd
  rw [isSet_of_agree agree hd]

theorem conflict?_of_agree (groups : r₁.groups = r₂.groups)
    (named : ∀ longs ∈ r₁.groups.values, ∀ long ∈ longs, ∃ d ∈ flags, d.flag.long = long)
    (agree : Reading.Agree flags r₁.lastReading r₂.lastReading) :
    r₁.conflict? = r₂.conflict? := by
  unfold conflict?
  rw [← groups]
  refine findSome?_congr ?_
  intro longs hlongs
  have set : longs.filter (fun long => r₁.isSet long) =
      longs.filter fun long => r₂.isSet long := by
    refine List.filter_congr ?_
    intro long hlong
    obtain ⟨d, hd, rfl⟩ := named longs hlongs long hlong
    exact isSet_of_agree agree hd
  rw [set]

/-- Readings that start alike end alike: the pass over the tokens, the required flags and the
groups look at nothing else. -/
theorem outcome_of_agree (same : r₁.visible command = r₂.visible command)
    (groups : r₁.groups = r₂.groups)
    (named : ∀ longs ∈ r₁.groups.values, ∀ long ∈ longs,
      ∃ d ∈ r₁.visible command, d.flag.long = long)
    (agree : Reading.Agree (r₁.visible command) (r₁.start command) (r₂.start command))
    (tokens : List String) :
    Outcome.Alike (r₁.visible command) (r₁.outcome files command tokens)
      (r₂.outcome files command tokens) := by
  have passes : Outcome.Alike (r₁.visible command) (r₁.pass files command tokens)
      (r₂.pass files command tokens) := agree.scan same tokens
  have missing : (r₁.parse files command tokens).1.missing? command =
      (r₂.parse files command tokens).1.missing? command := by
    rw [parse_fst, parse_fst]
    exact missing?_of_agree same passes.reading
  have conflict : (r₁.parse files command tokens).1.conflict? =
      (r₂.parse files command tokens).1.conflict? := by
    rw [parse_fst, parse_fst]
    exact conflict?_of_agree groups named passes.reading
  constructor
  · show Reading.Agree _ (r₁.parse files command tokens).1.lastReading
      (r₂.parse files command tokens).1.lastReading
    rw [parse_fst, parse_fst]
    exact passes.reading
  · show (r₁.parse files command tokens).2.map Failure.kind? =
      (r₂.parse files command tokens).2.map Failure.kind?
    rw [parse_snd, parse_snd, missing, conflict]
    simp only [Option.map_or, passes.failure]

/-- The readings of a command start alike if and only if the hidden flags leave the same under
the name of every visible flag without a default of its own. -/
theorem start_agree_iff (built₁ : Built r₁) (built₂ : Built r₂)
    (same : r₁.visible command = r₂.visible command) :
    Reading.Agree (r₁.visible command) (r₁.start command) (r₂.start command) ↔
      ∀ d ∈ r₁.visible command, d.flag.default = "" →
        r₁.inherited command d.flag.long = r₂.inherited command d.flag.long := by
  constructor
  · intro agree d hd empty
    have value : (r₁.defaults command).get? d.flag.long = (r₂.defaults command).get? d.flag.long :=
      agree.value d hd
    rw [get?_defaults, get?_defaults, built₁.apart.lastDefault_visible hd,
      built₂.apart.lastDefault_visible (same ▸ hd), if_pos empty, Option.none_or,
      Option.none_or] at value
    exact value
  · intro leave
    refine ⟨?_, rfl⟩
    intro d hd
    show (r₁.defaults command).get? d.flag.long = (r₂.defaults command).get? d.flag.long
    rw [get?_defaults, get?_defaults, built₁.apart.lastDefault_visible hd,
      built₂.apart.lastDefault_visible (same ▸ hd)]
    by_cases empty : d.flag.default = ""
    · rw [leave d hd empty]
    · rw [if_neg empty, Option.some_or, Option.some_or]

/-- Two registries in which a command sees the same flags, and groups that name only these, read
every command line of the command alike if and only if under the name of every visible flag
without a default the flags hidden from the command leave the same default. -/
theorem outcome_alike_iff (built₁ : Built r₁) (built₂ : Built r₂)
    (same : r₁.visible command = r₂.visible command) (groups : r₁.groups = r₂.groups)
    (named : ∀ longs ∈ r₁.groups.values, ∀ long ∈ longs,
      ∃ d ∈ r₁.visible command, d.flag.long = long) :
    (∀ tokens, Outcome.Alike (r₁.visible command) (r₁.outcome files command tokens)
        (r₂.outcome files command tokens)) ↔
      ∀ d ∈ r₁.visible command, d.flag.default = "" →
        r₁.inherited command d.flag.long = r₂.inherited command d.flag.long := by
  rw [← start_agree_iff built₁ built₂ same]
  constructor
  · intro alike
    -- An empty command line leaves the values with which the reading starts.
    have empty := (alike []).reading
    unfold outcome at empty
    simp only [Prod.map_fst] at empty
    rw [parse_fst, parse_fst] at empty
    exact empty
  · intro agree tokens
    exact outcome_of_agree same groups named agree tokens

/-! ## 4. A flag beside the one that chooses the shell -/

def foreignShell (default : String) : Definition :=
  ⟨{ long := "shell", scope := "b", default }, .text, show ValueType.ofText "string" = _ from rfl⟩

def besideShell (default : String) : Registry :=
  { withShell with
    definitions := withShell.definitions ++ [foreignShell default]
    values := seed withShell.values (foreignShell default).flag }

theorem built_besideShell (default : String) : Built (besideShell default) := by
  refine built_withShell.register (register_eq_ok_iff.mpr ⟨foreignShell default, rfl, ?_, rfl⟩)
  intro older holder
  refine Flag.clash?_eq_none_iff.mpr ?_
  revert older
  show ∀ older ∈ withShell.definitions, Flag.scopesOverlap older.flag.scope "b" = true →
    older.flag.long ≠ "shell" ∧ ("" ≠ "" → older.flag.short ≠ "")
  decide

/-- Without a default of its own the foreign flag does not show. -/
theorem outcome_alike_besideShell :
    Built withShell ∧ Built (besideShell "") ∧
      withShell.visible "completion" = (besideShell "").visible "completion" ∧
      withShell.groups = (besideShell "").groups ∧
      (∀ longs ∈ withShell.groups.values, ∀ long ∈ longs,
        ∃ d ∈ withShell.visible "completion", d.flag.long = long) ∧
      ∀ tokens, Outcome.Alike (withShell.visible "completion")
        (withShell.outcome ⟨.directory [], []⟩ "completion" tokens)
        ((besideShell "").outcome ⟨.directory [], []⟩ "completion" tokens) :=
  ⟨built_withShell, built_besideShell "", rfl, rfl, by decide,
    (outcome_alike_iff built_withShell (built_besideShell "") rfl rfl (by decide)).mpr (by decide)⟩

/-- With a default it does: the completion command finds a shell that nobody asked for. -/
theorem default_shows_besideShell :
    Built withShell ∧ Built (besideShell "zsh") ∧
      withShell.visible "completion" = (besideShell "zsh").visible "completion" ∧
      withShell.groups = (besideShell "zsh").groups ∧
      (∀ longs ∈ withShell.groups.values, ∀ long ∈ longs,
        ∃ d ∈ withShell.visible "completion", d.flag.long = long) ∧
      shellDefinition ∈ withShell.visible "completion" ∧
      withShell.outcome ⟨.directory [], []⟩ "completion" [] = (⟨.empty, []⟩, none) ∧
      (besideShell "zsh").outcome ⟨.directory [], []⟩ "completion" [] =
        (⟨.ofList [("shell", "zsh")], []⟩, none) :=
  ⟨built_withShell, built_besideShell "zsh", rfl, rfl, by decide, by decide, rfl, rfl⟩

end Registry

end Toolsmith
