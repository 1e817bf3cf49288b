import Toolsmith.Proofs.Flag.Steps
/-!
# What the spellings of a flag reach

A flag is typed by its long or its short name, and a key denotes the first visible flag that
answers to it, be it by the long or the short name.  Registration lets no two visible flags share a
long name or a short name, but it does not compare the long name of one with the short name of
the other.  So a flag is reached by all its spellings exactly if no visible flag before it has one
of its names as the name of the other kind (`reached_iff`).

A value may be typed behind an equals sign or in a token of its own, and keys of one character in
one token or each in its own.  The command lines are read alike, whatever stands around.
-/

namespace Toolsmith

namespace Registry

/-! ## 1. Flags that are reached -/

/-- For a command, every key that a flag answers to denotes the flag.  A token that spells it,
wherever it stands in a command line, sets the flag, to the value after an equals sign or to the one
that it takes, and leaves the values of the other visible flags as they are. -/
structure Reached (registry : Registry) (command : String) (d : Definition) : Prop where
  resolved : ∀ key, d.flag.answersTo key = true →
    resolve registry.definitions command key = .ok d
  named : ∀ spelling ∈ d.flag.spellings, ∀ files tokens rest,
    registry.pass files command (tokens ++ spelling :: rest) =
      Reading.followedBy (registry.pass files command tokens) fun reading =>
        Reading.followedBy (reading.store files d (d.taken rest).1)
          (Reading.scan files registry.definitions command (d.taken rest).2)
  assigned : ∀ files tokens value rest,
    registry.pass files command (tokens ++ ("--" ++ d.flag.long ++ "=" ++ value) :: rest) =
      Reading.followedBy (registry.pass files command tokens) fun reading =>
        Reading.followedBy (reading.store files d value)
          (Reading.scan files registry.definitions command rest)
  others : ∀ other ∈ registry.visible command, other ≠ d → ∀ files value reading,
    (Reading.store files d value reading).1.values.get? other.flag.long =
      reading.values.get? other.flag.long

variable {registry : Registry} {command : String} {before after : List Definition}
  {d : Definition}

/-- A flag answers to a key for a command if no visible flag before it does. -/
theorem resolve_own_iff (seen : registry.visible command = before ++ d :: after)
    (once : d ∉ before) {key : String} (own : d.flag.answersTo key = true) :
    resolve registry.definitions command key = .ok d ↔
      ∀ older ∈ before, older.flag.answersTo key = false := by
  rw [resolve_eq_ok_iff, seen, List.find?_append]
  cases found : before.find? fun e => e.flag.answersTo key with
  | none =>
    have none : ∀ older ∈ before, older.flag.answersTo key = false := by
      simpa using List.find?_eq_none.mp found
    rw [Option.none_or, List.find?_cons, own]
    exact iff_of_true rfl none
  | some e =>
    have earlier := List.mem_of_find?_eq_some found
    rw [Option.some_or, Option.some.injEq]
    constructor
    · rintro rfl
      exact absurd earlier once
    · intro none
      have answers := List.find?_some found
      rw [none e earlier] at answers
      cases answers

-- If every key of a flag denotes it, every token that spells it sets it.
theorem Built.reached (built : registry.Built) (spellable : d.flag.Spellable)
    (hd : d ∈ registry.visible command)
    (resolved : ∀ key, d.flag.answersTo key = true →
      resolve registry.definitions command key = .ok d) : registry.Reached command d where
  resolved := resolved
  named := by
    intro spelling hspelling files tokens rest
    obtain ⟨key, own, shape⟩ := spellable.ofText hspelling
    exact pass_append shape (resolved key own) tokens rest
  assigned := by
    intro files tokens value rest
    have own : d.flag.answersTo d.flag.long = true := Flag.answersTo_iff.mpr (.inl rfl)
    have shape := Token.ofText_longValue spellable.long value
    have dashed := isDashed_of_ofText_ne (by rw [shape]; nofun)
    unfold pass
    rw [Reading.scan_append dashed]
    refine congrArg (Reading.followedBy _) (funext ?_)
    intro reading
    rw [Reading.scan_assignment shape, Reading.assign, resolved _ own]
  others := by
    intro other hother ne files value reading
    refine Reading.get?_store_of_ne reading d value ?_
    intro same
    exact ne (built.apart.eq_of_long_eq hother hd same)

/-- A flag is reached by its spellings if and only if neither the short name of a visible flag
before it is its long name, nor the long name of one its short name. -/
theorem Built.reached_iff (built : registry.Built) (spellable : d.flag.Spellable)
    (seen : registry.visible command = before ++ d :: after) :
    registry.Reached command d ↔
      ∀ older ∈ before, older.flag.short ≠ d.flag.long ∧
        (d.flag.short ≠ "" → older.flag.long ≠ d.flag.short) := by
  have pairwise := built.apart.pairwise_visible command
  rw [seen, List.pairwise_append] at pairwise
  have apart : ∀ older ∈ before, older.flag.long ≠ d.flag.long ∧
      (d.flag.short ≠ "" → older.flag.short ≠ d.flag.short) :=
    fun older holder => pairwise.2.2 older holder d List.mem_cons_self
  have once : d ∉ before := fun again => (apart d again).1 rfl
  have hd : d ∈ registry.visible command := by
    rw [seen]
    exact List.mem_append_right before List.mem_cons_self
  constructor
  · intro reached older holder
    have own : d.flag.answersTo d.flag.long = true := Flag.answersTo_iff.mpr (.inl rfl)
    have long := (resolve_own_iff seen once own).mp (reached.resolved _ own) older holder
    refine ⟨?_, ?_⟩
    · intro same
      rw [Flag.answersTo_iff.mpr (.inr ⟨same ▸ spellable.named, same.symm⟩)] at long
      cases long
    · intro shorter same
      have own : d.flag.answersTo d.flag.short = true :=
        Flag.answersTo_iff.mpr (.inr ⟨shorter, rfl⟩)
      have short := (resolve_own_iff seen once own).mp (reached.resolved _ own) older holder
      rw [Flag.answersTo_iff.mpr (.inl same.symm)] at short
      cases short
  · intro crossed
    refine built.reached spellable hd ?_
    intro key own
    refine (resolve_own_iff seen once own).mpr ?_
    intro older holder
    rw [Bool.eq_false_iff, ne_eq, Flag.answersTo_iff]
    -- Registration excludes names of one kind, the condition those of different kinds.
    rcases Flag.answersTo_iff.mp own with rfl | ⟨shorter, rfl⟩
    · rintro (same | ⟨-, same⟩)
      · exact (apart older holder).1 same.symm
      · exact (crossed older holder).1 same.symm
    · rintro (same | ⟨-, same⟩)
      · exact (crossed older holder).2 shorter same.symm
      · exact (apart older holder).2 shorter same.symm

/-! ## 2. Values behind an equals sign -/

/-- A value is read alike behind an equals sign and as the next token, whatever stands before and
after: the two command lines are read to their end or fail, with the same values and positional
arguments.  The key denotes a flag that takes a value, or none. -/
theorem parse_attached_eq_parse_separate {files : Files} {key value : String}
    (plain : '=' ∉ key.toList) (undashed : isDashed value = false)
    (takes : ∀ d, resolve registry.definitions command key = .ok d → d.type.takesValue = true)
    (first last : List String) :
    registry.parse files command (first ++ ["--" ++ key ++ "=" ++ value] ++ last) =
      registry.parse files command (first ++ ["--" ++ key, value] ++ last) := by
  have assigned : Token.ofText ("--" ++ key ++ "=" ++ value) = .assignment key value :=
    Token.ofText_longValue plain value
  have bare : Token.ofText ("--" ++ key) = .bare key := Token.ofText_long plain
  have same (reading : Reading) :
      Reading.scan files registry.definitions command
          (("--" ++ key ++ "=" ++ value) :: last) reading =
        Reading.scan files registry.definitions command (("--" ++ key) :: value :: last)
          reading := by
    rw [Reading.scan_assignment assigned, Reading.assign]
    cases resolved : resolve registry.definitions command key with
    | error fault =>
      rw [Reading.scan_unresolved bare resolved]
      rfl
    | ok d =>
      have taken : d.taken (value :: last) = (value, last) := by
        simp [Definition.taken, takes d resolved, undashed]
      rw [Reading.scan_bare bare resolved, taken]
  -- Neither form is the value of the token before it.
  have attached : isDashed ("--" ++ key ++ "=" ++ value) = true :=
    isDashed_of_ofText_ne (by simp [assigned])
  have separate : isDashed ("--" ++ key) = true := isDashed_of_ofText_ne (by simp [bare])
  have pass : registry.pass files command (first ++ ["--" ++ key ++ "=" ++ value] ++ last) =
      registry.pass files command (first ++ ["--" ++ key, value] ++ last) := by
    unfold Registry.pass
    rw [List.append_assoc, List.append_assoc]
    show Reading.scan files registry.definitions command
        (first ++ ("--" ++ key ++ "=" ++ value) :: last) _ =
      Reading.scan files registry.definitions command (first ++ ("--" ++ key) :: value :: last) _
    rw [Reading.scan_append attached, Reading.scan_append separate, funext same]
  exact parse_eq_of_pass_eq pass

/-- The shell is named in either form behind a flag that takes no value. -/
theorem parse_attached_shell :
    '=' ∉ "shell".toList ∧ isDashed "zsh" = false ∧
      (∀ d, resolve withShell.definitions "completion" "shell" = .ok d →
        d.type.takesValue = true) ∧
      withShell.parse ⟨.directory [], []⟩ "completion" (["x", "-v"] ++ ["--shell=zsh"] ++ ["y"]) =
        withShell.parse ⟨.directory [], []⟩ "completion"
          (["x", "-v"] ++ ["--shell", "zsh"] ++ ["y"]) := by
  have plain : '=' ∉ "shell".toList := by decide
  have takes : ∀ d, resolve withShell.definitions "completion" "shell" = .ok d →
      d.type.takesValue = true := by
    have resolved : resolve withShell.definitions "completion" "shell" = .ok shellDefinition := rfl
    intro d h
    rw [resolved] at h
    cases h
    rfl
  have undashed : isDashed "zsh" = false := rfl
  exact ⟨plain, undashed, takes,
    parse_attached_eq_parse_separate plain undashed takes ["x", "-v"] ["y"]⟩

/-! ## 3. Keys in one token -/

/-- Keys of one character, each typed in a token of its own. -/
def typedApart (keys : List Char) : List String := keys.map fun key => "-" ++ String.ofList [key]

-- A key that no value follows is set to the word for true.
theorem valueBefore_of_idle {key : String} {rest : List String}
    (idle : registry.takes command key = true → ∀ next ∈ rest.head?, isDashed next = true) :
    registry.valueBefore command key rest = "true" := by
  cases rest with
  | nil => rfl
  | cons next rest =>
    rw [valueBefore]
    cases takes : registry.takes command key with
    | false => rfl
    | true =>
      have dashed : isDashed next = true := idle takes next rfl
      rw [dashed]
      rfl

-- And it leaves the tokens behind it as they are.
theorem steps_of_idle {key : String} {rest : List String}
    (idle : registry.takes command key = true → ∀ next ∈ rest.head?, isDashed next = true) :
    registry.steps command (registry.takes command key) rest =
      registry.steps command false rest := by
  cases takes : registry.takes command key with
  | false => rfl
  | true =>
    cases rest with
    | nil => rfl
    | cons next rest => exact steps_of_dashed (idle takes next rfl) true rest

theorem steps_short {key : Char} (dash : key ≠ '-') {rest : List String}
    (idle : registry.takes command (String.ofList [key]) = true →
      ∀ next ∈ rest.head?, isDashed next = true) :
    registry.steps command false (("-" ++ String.ofList [key]) :: rest) =
      .set (String.ofList [key]) "true" :: registry.steps command false rest := by
  have shape : Token.ofText ("-" ++ String.ofList [key]) = .bare (String.ofList [key]) :=
    Token.ofText_short dash String.toList_ofList
  rw [steps, stepsOf, waits, shape]
  dsimp only [assignmentsOf]
  rw [valueBefore_of_idle idle, steps_of_idle idle]
  rfl

/-- Keys that are typed apart are set one after another to the word for true, unless the last one
takes the token behind it.  The others cannot take the next key, which has a dash in front. -/
theorem steps_typedApart {keys : List Char} (dashless : '-' ∉ keys) {rest : List String}
    (idle : ∀ key ∈ keys.getLast?, registry.takes command (String.ofList [key]) = true →
      ∀ next ∈ rest.head?, isDashed next = true) :
    registry.steps command false (typedApart keys ++ rest) =
      (keys.map fun key => .set (String.ofList [key]) "true") ++
        registry.steps command false rest := by
  induction keys with
  | nil => rfl
  | cons key keys ih =>
    rw [List.mem_cons, not_or] at dashless
    cases keys with
    | nil => exact steps_short (Ne.symm dashless.1) (idle key rfl)
    | cons next keys =>
      have dashed : isDashed ("-" ++ String.ofList [next]) = true := by
        simp [isDashed]
      have first : registry.steps command false
          (("-" ++ String.ofList [key]) :: (typedApart (next :: keys) ++ rest)) =
            .set (String.ofList [key]) "true" ::
              registry.steps command false (typedApart (next :: keys) ++ rest) := by
        refine steps_short (Ne.symm dashless.1) ?_
        intro _ _ same
        obtain rfl := Option.some.inj same
        exact dashed
      rw [List.getLast?_cons_cons] at idle
      show registry.steps command false
        (("-" ++ String.ofList [key]) :: (typedApart (next :: keys) ++ rest)) = _
      rw [first, ih dashless.2 idle]
      rfl

/-- Keys of one character do the same in one token as apart, anywhere in a command line, whether it
can be read or not.  If the last of them is one of a flag that takes a value, no value may follow:
apart, it would take it. -/
theorem parse_cluster_eq_parse_typedApart {files : Files} {keys : List Char}
    (several : 2 ≤ keys.length) (dashless : '-' ∉ keys) {last : List String}
    (idle : (∀ key ∈ keys.getLast?, ∀ d,
        resolve registry.definitions command (String.ofList [key]) = .ok d →
          d.type.takesValue = false) ∨
      ∀ next ∈ last.head?, isDashed next = true) (first : List String) :
    registry.parse files command (first ++ ["-" ++ String.ofList keys] ++ last) =
      registry.parse files command (first ++ typedApart keys ++ last) := by
  have cluster : Token.ofText ("-" ++ String.ofList keys) = .cluster keys := by
    refine Token.ofText_of_written ⟨rfl, several, ?_⟩
    intro dash
    exact dashless (List.mem_of_head? dash)
  have together : registry.steps command false (("-" ++ String.ofList keys) :: last) =
      (keys.map fun key => .set (String.ofList [key]) "true") ++
        registry.steps command false last := by
    rw [steps, stepsOf, waits, cluster]
    dsimp only [assignmentsOf]
    rw [List.map_map]
    rfl
  have separate : registry.steps command false (typedApart keys ++ last) =
      (keys.map fun key => .set (String.ofList [key]) "true") ++
        registry.steps command false last := by
    refine steps_typedApart dashless ?_
    intro key hkey takes
    rcases idle with idle | idle
    · obtain ⟨d, denoted, takesValue⟩ := (Option.any_eq_true _ _).mp takes
      rw [idle key hkey d (resolve_eq_ok_iff_denoted?.mpr denoted)] at takesValue
      cases takesValue
    · exact idle
  -- Neither form begins with a value of the token before it.
  have pass : registry.pass files command (first ++ ["-" ++ String.ofList keys] ++ last) =
      registry.pass files command (first ++ typedApart keys ++ last) := by
    obtain ⟨key, keys, rfl⟩ := List.exists_cons_of_length_pos (Nat.zero_lt_of_lt several)
    have dashed (rest : List Char) : isDashed ("-" ++ String.ofList rest) = true := by
      simp [isDashed]
    unfold Registry.pass
    rw [List.append_assoc, List.append_assoc]
    show Reading.scan files registry.definitions command
        (first ++ ("-" ++ String.ofList (key :: keys)) :: last) _ =
      Reading.scan files registry.definitions command
        (first ++ ("-" ++ String.ofList [key]) :: (typedApart keys ++ last)) _
    rw [Reading.scan_append (dashed _), Reading.scan_append (dashed _)]
    refine congrArg (Reading.followedBy _) (funext ?_)
    intro reading
    rw [scan_eq_carryOut, scan_eq_carryOut, together]
    exact congrArg (registry.carryOut files command · reading) separate.symm
  exact parse_eq_of_pass_eq pass

/-- A flag that takes a value and stands in the middle of a token is set to the word for true.  The
last one takes none, so what follows it is a positional argument. -/
theorem parse_cluster_greetings :
    2 ≤ ['v', 'n', 'l'].length ∧ '-' ∉ ['v', 'n', 'l'] ∧
      (∀ key ∈ ['v', 'n', 'l'].getLast?, ∀ d,
        resolve greetings.definitions "greet" (String.ofList [key]) = .ok d →
          d.type.takesValue = false) ∧
      greetings.parse ⟨.directory [], []⟩ "greet"
          (["--times", "3"] ++ ["-" ++ String.ofList ['v', 'n', 'l']] ++ ["x"]) =
        greetings.parse ⟨.directory [], []⟩ "greet"
          (["--times", "3"] ++ typedApart ['v', 'n', 'l'] ++ ["x"]) ∧
      (greetings.parse ⟨.directory [], []⟩ "greet"
          (["--times", "3"] ++ typedApart ['v', 'n', 'l'] ++ ["x"])).1.positionals = ["x"] := by
  have several : 2 ≤ ['v', 'n', 'l'].length := by decide
  have dashless : '-' ∉ ['v', 'n', 'l'] := by decide
  have idle : ∀ key ∈ ['v', 'n', 'l'].getLast?, ∀ d,
      resolve greetings.definitions "greet" (String.ofList [key]) = .ok d →
        d.type.takesValue = false := by
    intro key hkey d resolved
    obtain rfl : 'l' = key := Option.some.inj hkey
    have loud : resolve greetings.definitions "greet" (String.ofList ['l']) =
        .ok ⟨{ long := "loud", short := "l", type := "bool", scope := "greet" }, .boolean,
          ValueType.ofText_bool⟩ := rfl
    rw [loud] at resolved
    cases resolved
    rfl
  exact ⟨several, dashless, idle,
    parse_cluster_eq_parse_typedApart several dashless (.inl idle) ["--times", "3"], rfl⟩

end Registry

end Toolsmith
