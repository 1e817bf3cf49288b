import Toolsmith.Proofs.Flag.Confinement
/-!
# A command line as a list of steps

The shape of a token is told by its text (`Token.ofText_eq_iff`), and what the token does by its
shape and its two neighbours: it sets keys, or it stays as a positional argument unless the token
before it takes it for its value.  The pass over the tokens carries out these steps one after
another (`scan_eq_carryOut`).  So no more than two tokens in a row decide whether one of them is a
positional argument (`positionals_of_parse`), and tokens can be read in two parts unless the cut
parts a key from its value (`scan_in_parts`).
-/

namespace Toolsmith

/-! ## 1. Texts of tokens -/

/-- A token that is a key and nothing else: two dashes and a key without an equals sign, or a dash
and a key of one character, which is no dash. -/
def BareKey (token key : String) : Prop :=
  token = "--" ++ key ∧ '=' ∉ key.toList ∨ token = "-" ++ key ∧ ∃ c, c ≠ '-' ∧ key.toList = [c]

def Token.Written : Token → String → Prop
  | .assignment key value, token => token = "--" ++ key ++ "=" ++ value ∧ '=' ∉ key.toList
  | .bare key, token => BareKey token key
  | .cluster keys, token =>
    token = "-" ++ String.ofList keys ∧ 2 ≤ keys.length ∧ keys.head? ≠ some '-'
  | .positional, token => token = "-" ∨ isDashed token = false

theorem isDashed_eq_false_iff {token : String} :
    isDashed token = false ↔ ∀ rest, token.toList ≠ '-' :: rest := by
  unfold isDashed
  split
  next rest dashed => simp [dashed]
  next other => simpa using other

theorem Token.ofText_of_undashed {token : String} (undashed : isDashed token = false) :
    Token.ofText token = .positional := by
  by_contra other
  rw [isDashed_of_ofText_ne other] at undashed
  cases undashed

theorem Token.written_ofText (token : String) : (Token.ofText token).Written token := by
  unfold Token.ofText
  split
  next body chars =>
    split
    next key value cut =>
      obtain ⟨rfl, plain⟩ := Text.cutChars_eq_some_iff.mp cut
      refine ⟨String.toList_inj.mp ?_, ?_⟩
      · simp [chars]
      · rw [String.toList_ofList]
        exact plain
    next uncut =>
      refine .inl ⟨String.toList_inj.mp ?_, ?_⟩
      · simp [chars]
      · rw [String.toList_ofList]
        intro equals
        obtain ⟨key, value, rfl, plain⟩ := List.eq_append_cons_of_mem equals
        rw [Text.cutChars_append plain] at uncut
        cases uncut
  next chars => exact .inl (String.toList_inj.mp chars)
  next key dash chars =>
    refine .inr ⟨String.toList_inj.mp ?_, key, dash, String.toList_ofList⟩
    simp [chars]
  next keys two one several chars =>
    refine ⟨String.toList_inj.mp ?_, ?_, ?_⟩
    · simp [chars]
    · match keys with
      | [] => exact (one rfl).elim
      | [key] => exact (several key rfl).elim
      | _ :: _ :: _ => simp
    · intro dash
      obtain ⟨body, rfl⟩ := List.head?_eq_some_iff.mp dash
      exact two body rfl
  next other => exact .inr (isDashed_eq_false_iff.mpr other)

theorem Token.ofText_of_written {token : String} {shape : Token} (written : shape.Written token) :
    Token.ofText token = shape := by
  cases shape with
  | assignment key value =>
    obtain ⟨rfl, plain⟩ := written
    exact Token.ofText_longValue plain value
  | bare key =>
    rcases written with ⟨rfl, plain⟩ | ⟨rfl, c, dash, single⟩
    · exact Token.ofText_long plain
    · exact Token.ofText_short dash single
  | cluster keys =>
    obtain ⟨rfl, several, dash⟩ := written
    have chars : ("-" ++ String.ofList keys).toList = '-' :: keys := by simp
    unfold Token.ofText
    rw [chars]
    -- Of the five shapes, two characters behind a single dash fit the fourth alone.
    split
    next body two =>
      rw [List.cons.inj two |>.2] at dash
      exact absurd rfl dash
    next one =>
      rw [List.cons.inj one |>.2] at several
      cases several
    next key one =>
      rw [List.cons.inj one |>.2] at several
      cases several with
      | step h => cases h
    next keys' _ _ _ same => rw [List.cons.inj same |>.2]
    next other => exact (other keys rfl).elim
  | positional =>
    rcases written with rfl | undashed
    · rfl
    · exact Token.ofText_of_undashed undashed

/-- A token has the one shape in whose form it is written. -/
theorem Token.ofText_eq_iff {token : String} {shape : Token} :
    Token.ofText token = shape ↔ shape.Written token := by
  constructor
  · rintro rfl
    exact Token.written_ofText token
  · exact Token.ofText_of_written

namespace Registry

variable {registry : Registry} {files : Files} {command : String}

/-! ## 2. Steps -/

/-- The flag that a key denotes for a command: the first one that it sees and that answers to the
key. -/
def denoted? (registry : Registry) (command key : String) : Option Definition :=
  (registry.visible command).find? fun d => d.flag.answersTo key

def takes (registry : Registry) (command key : String) : Bool :=
  (registry.denoted? command key).any fun d => d.type.takesValue

/-- Whether a token is a bare key whose flag takes a value. -/
def waits (registry : Registry) (command token : String) : Bool :=
  match Token.ofText token with
  | .bare key => registry.takes command key
  | _ => false

def valueBefore (registry : Registry) (command key : String) : List String → String
  | [] => "true"
  | value :: _ => if registry.takes command key && !isDashed value then value else "true"

/-- What a token of some shape assigns to keys in front of some tokens. -/
def assignmentsOf (registry : Registry) (command : String) (rest : List String) :
    Token → List (String × String)
  | .assignment key value => [(key, value)]
  | .bare key => [(key, registry.valueBefore command key rest)]
  | .cluster keys => keys.map fun key => (String.ofList [key], "true")
  | .positional => []

/-- A step of a reading: a key is set to a value, or a token is kept as a positional argument. -/
inductive Step
  | set (key value : String)
  | keep (token : String)
  deriving DecidableEq, Repr

/-- The steps of a token in front of some tokens; the token before it may be waiting for it. -/
def stepsOf (registry : Registry) (command : String) (waiting : Bool) (token : String)
    (rest : List String) : List Step :=
  match Token.ofText token with
  | .positional => if waiting && !isDashed token then [] else [.keep token]
  | shape => (registry.assignmentsOf command rest shape).map fun a => .set a.1 a.2

def steps (registry : Registry) (command : String) : Bool → List String → List Step
  | _, [] => []
  | waiting, token :: rest =>
    registry.stepsOf command waiting token rest ++
      registry.steps command (registry.waits command token) rest

def carryOut (registry : Registry) (files : Files) (command : String) :
    List Step → Reading → Outcome
  | [], reading => (reading, none)
  | .set key value :: steps, reading =>
    Reading.followedBy (reading.assign files registry.definitions command key value)
      (registry.carryOut files command steps)
  | .keep token :: steps, reading =>
    registry.carryOut files command steps
      { reading with positionals := reading.positionals ++ [token] }

theorem followedBy_of_snd {outcome : Outcome} {next : Reading → Outcome}
    (done : outcome.2 = none) : Reading.followedBy outcome next = next outcome.1 := by
  obtain ⟨reading, failure⟩ := outcome
  subst done
  rfl

theorem resolve_eq_ok_iff_denoted? {key : String} {d : Definition} :
    resolve registry.definitions command key = .ok d ↔ registry.denoted? command key = some d :=
  resolve_eq_ok_iff

theorem takes_of_resolve {key : String} {d : Definition}
    (resolved : resolve registry.definitions command key = .ok d) :
    registry.takes command key = d.type.takesValue := by
  rw [takes, resolve_eq_ok_iff_denoted?.mp resolved]
  rfl

theorem valueBefore_of_resolve {key : String} {d : Definition}
    (resolved : resolve registry.definitions command key = .ok d) (rest : List String) :
    registry.valueBefore command key rest = (d.taken rest).1 := by
  cases rest with
  | nil => rfl
  | cons value rest =>
    rw [valueBefore, takes_of_resolve resolved, Definition.taken]
    split <;> rfl

theorem carryOut_append (first second : List Step) (reading : Reading) :
    registry.carryOut files command (first ++ second) reading =
      Reading.followedBy (registry.carryOut files command first reading)
        (registry.carryOut files command second) := by
  induction first generalizing reading with
  | nil => rfl
  | cons step first ih =>
    cases step with
    | set key value =>
      rw [List.cons_append, carryOut, carryOut, Reading.followedBy_assoc]
      exact congrArg (Reading.followedBy _) (funext ih)
    | keep token => exact ih _

@[simp] theorem carryOut_set (key value : String) (reading : Reading) :
    registry.carryOut files command [.set key value] reading =
      reading.assign files registry.definitions command key value :=
  Reading.followedBy_pure _

theorem carryOut_cluster (keys : List Char) (reading : Reading) :
    registry.carryOut files command
        (keys.map fun key => .set (String.ofList [key]) "true") reading =
      Reading.assignAll files registry.definitions command keys reading := by
  induction keys generalizing reading with
  | nil => rfl
  | cons key keys ih => exact congrArg (Reading.followedBy _) (funext ih)

-- A token with a dash in front is nobody's value.
theorem steps_of_dashed {token : String} (dashed : isDashed token = true) (waiting : Bool)
    (rest : List String) :
    registry.steps command waiting (token :: rest) =
      registry.steps command false (token :: rest) := by
  rw [steps, steps, stepsOf, stepsOf, dashed, Bool.not_true, Bool.and_false, Bool.and_false]

-- A token without one is that of the key that waits for it, and waits for nothing.
theorem steps_of_undashed {value : String} (undashed : isDashed value = false)
    (rest : List String) :
    registry.steps command true (value :: rest) = registry.steps command false rest := by
  have loose : Token.ofText value = .positional := Token.ofText_of_undashed undashed
  rw [steps, stepsOf, waits, loose, undashed]
  rfl

-- What the tokens behind a bare key amount to begins behind the value that it takes.
theorem steps_taken {key : String} {d : Definition}
    (resolved : resolve registry.definitions command key = .ok d) (rest : List String) :
    registry.steps command (registry.takes command key) rest =
      registry.steps command false (d.taken rest).2 := by
  rw [takes_of_resolve resolved]
  cases rest with
  | nil => cases d.type.takesValue <;> rfl
  | cons value rest =>
    rw [Definition.taken]
    cases dashed : isDashed value with
    | true =>
      rw [steps_of_dashed dashed, Bool.not_true, Bool.and_false]
      rfl
    | false =>
      cases d.type.takesValue with
      | true => exact steps_of_undashed dashed rest
      | false => rfl

/-- The pass over the tokens carries out their steps.  The induction goes along its recursion, in
which a bare key may take the token after it. -/
theorem scan_eq_carryOut (tokens : List String) (reading : Reading) :
    Reading.scan files registry.definitions command tokens reading =
      registry.carryOut files command (registry.steps command false tokens) reading := by
  match tokens with
  | [] => rfl
  | token :: tokens =>
    have rest (tokens' : List String) (suffix : tokens' <:+ tokens) :
        Reading.scan files registry.definitions command tokens' =
          registry.carryOut files command (registry.steps command false tokens') :=
      have shorter : tokens'.length < (token :: tokens).length :=
        Nat.lt_succ_of_le suffix.length_le
      funext (scan_eq_carryOut tokens')
    rw [steps, stepsOf, waits, carryOut_append]
    cases shape : Token.ofText token with
    | assignment key value =>
      rw [Reading.scan_assignment shape, rest tokens List.suffix_rfl, ← carryOut_set]
      rfl
    | cluster keys =>
      rw [Reading.scan_cluster shape, rest tokens List.suffix_rfl, ← carryOut_cluster]
      dsimp only [assignmentsOf]
      rw [List.map_map]
      rfl
    | positional =>
      rw [Reading.scan_positional shape, rest tokens List.suffix_rfl]
      rfl
    | bare key =>
      cases resolved : resolve registry.definitions command key with
      | error fault =>
        rw [Reading.scan_unresolved shape resolved]
        dsimp only [assignmentsOf]
        rw [List.map_singleton, carryOut_set, Reading.assign, resolved]
        rfl
      | ok d =>
        rw [Reading.scan_bare shape resolved, rest _ (d.taken_suffix tokens),
          ← steps_taken resolved]
        dsimp only [assignmentsOf]
        rw [List.map_singleton, carryOut_set, Reading.assign, resolved,
          valueBefore_of_resolve resolved]
termination_by tokens.length
decreasing_by exact shorter

/-! ## 3. Positional arguments -/

def withBefore (tokens : List String) : List (Option String × String) :=
  (none :: tokens.map some).zip tokens

/-- A token is a positional argument behind another one, or at the beginning: it is a dash alone or
has no dash in front, and if it has none, the token before it is not a bare key whose flag takes a
value. -/
def Loose (registry : Registry) (command : String) (before? : Option String) (token : String) :
    Prop :=
  (token = "-" ∨ isDashed token = false) ∧
    ¬(isDashed token = false ∧
      ∃ before ∈ before?, ∃ key, BareKey before key ∧ registry.takes command key = true)

theorem waits_iff {token : String} :
    registry.waits command token = true ↔
      ∃ key, BareKey token key ∧ registry.takes command key = true := by
  constructor
  · intro waiting
    unfold waits at waiting
    split at waiting
    next key shape => exact ⟨key, Token.ofText_eq_iff.mp shape, waiting⟩
    next => cases waiting
  · rintro ⟨key, bare, takes⟩
    have shape : Token.ofText token = .bare key := Token.ofText_eq_iff.mpr bare
    rw [waits, shape]
    exact takes

theorem loose_iff {before? : Option String} {token : String} :
    registry.Loose command before? token ↔
      Token.ofText token = .positional ∧
        (before?.any (registry.waits command) && !isDashed token) = false := by
  rw [Token.ofText_eq_iff, Bool.eq_false_iff, ne_eq, Bool.and_eq_true, Option.any_eq_true,
    Bool.not_eq_true', and_comm (a := ∃ _, _)]
  simp only [waits_iff]
  rfl

instance (before? : Option String) (token : String) :
    Decidable (registry.Loose command before? token) :=
  decidable_of_iff' _ loose_iff

def Step.kept? : Step → Option String
  | .set _ _ => none
  | .keep token => some token

theorem positionals_assign (reading : Reading) (key value : String) :
    (reading.assign files registry.definitions command key value).1.positionals =
      reading.positionals := by
  unfold Reading.assign Reading.store
  repeat' split
  all_goals rfl

theorem positionals_carryOut {steps : List Step} {reading : Reading}
    (done : (registry.carryOut files command steps reading).2 = none) :
    (registry.carryOut files command steps reading).1.positionals =
      reading.positionals ++ steps.filterMap Step.kept? := by
  induction steps generalizing reading with
  | nil => exact (List.append_nil _).symm
  | cons step steps ih =>
    cases step with
    | set key value =>
      obtain ⟨first, rest⟩ := followedBy_snd_eq_none_iff.mp done
      rw [carryOut, followedBy_of_snd first, ih rest, positionals_assign]
      rfl
    | keep token =>
      rw [carryOut, ih done, List.append_assoc]
      rfl

theorem filterMap_kept?_stepsOf (waiting : Bool) (token : String) (rest : List String) :
    (registry.stepsOf command waiting token rest).filterMap Step.kept? =
      if Token.ofText token = .positional ∧ (waiting && !isDashed token) = false then [token]
      else [] := by
  unfold stepsOf
  split
  next shape => cases waiting && !isDashed token <;> simp [shape, Step.kept?]
  next other =>
    rw [if_neg fun h => other h.1, List.filterMap_map]
    exact List.filterMap_eq_nil_iff.mpr fun _ _ => rfl

theorem filterMap_kept?_steps (before? : Option String) (tokens : List String) :
    (registry.steps command (before?.any (registry.waits command)) tokens).filterMap Step.kept? =
      (((before? :: tokens.map some).zip tokens).filter fun pair =>
        registry.Loose command pair.1 pair.2).map Prod.snd := by
  induction tokens generalizing before? with
  | nil => rfl
  | cons token rest ih =>
    rw [steps, List.filterMap_append, filterMap_kept?_stepsOf, List.map_cons, List.zip_cons_cons,
      List.filter_cons]
    have later := ih (some token)
    rw [Option.any_some] at later
    rw [later]
    by_cases loose : registry.Loose command before? token
    · rw [if_pos (loose_iff.mp loose), if_pos (decide_eq_true loose)]
      rfl
    · rw [if_neg (loose_iff.not.mp loose), if_neg (by simpa using loose)]
      rfl

/-- In a command line that is read to its end the positional arguments are the tokens that are loose
behind the one before them, in their order. -/
theorem positionals_of_parse {tokens : List String}
    (read : (registry.parse files command tokens).2 = none) :
    (registry.parse files command tokens).1.positionals =
      ((withBefore tokens).filter fun pair =>
        registry.Loose command pair.1 pair.2).map Prod.snd := by
  have passed : (registry.pass files command tokens).2 = none := (parse_snd_eq_none_iff.mp read).1
  unfold pass at passed
  rw [scan_eq_carryOut] at passed
  rw [positionals_parse]
  unfold pass
  rw [scan_eq_carryOut, positionals_carryOut passed]
  exact filterMap_kept?_steps none tokens

def greetDefinitions : List Definition :=
  [⟨{ long := "times", short := "t", type := "int", default := "1", scope := "greet" },
      .integer, rfl⟩,
    ⟨{ long := "loud", short := "l", type := "bool", scope := "greet" }, .boolean,
      ValueType.ofText_bool⟩,
    ⟨{ long := "name", short := "n", default := "World", scope := "greet" }, .text,
      ValueType.ofText_string⟩]

def greetings : Registry :=
  { withShell with definitions := withShell.definitions ++ greetDefinitions }

/-- A number is the value of its flag, and what follows a flag that is true or false is not. -/
theorem positionals_greetings :
    (greetings.parse ⟨.directory [], []⟩ "greet"
        ["--times", "3", "-", "x", "-l", "y", "-n", "", ""]).2 = none ∧
      (greetings.parse ⟨.directory [], []⟩ "greet"
        ["--times", "3", "-", "x", "-l", "y", "-n", "", ""]).1.positionals =
        ["-", "x", "y", ""] := by
  have read : (greetings.parse ⟨.directory [], []⟩ "greet"
      ["--times", "3", "-", "x", "-l", "y", "-n", "", ""]).2 = none := rfl
  refine ⟨read, ?_⟩
  rw [positionals_of_parse read]
  rfl

/-! ## 4. Command lines in two parts -/

/-- The pass over two lists of tokens is the pass over the first and then, from what it has read,
the pass over the second; if the first fails, the failure and what was read up to it stand.  It must
not be that the first list ends with a bare key whose flag takes a value and the second begins with
a token without a dash in front. -/
theorem scan_in_parts {first second : List String}
    (apart : first = [] ∨
      (∀ last ∈ first.getLast?, ¬∃ key, BareKey last key ∧
        ∃ d, resolve registry.definitions command key = .ok d ∧ d.type.takesValue = true) ∨
      second = [] ∨ ∀ next ∈ second.head?, isDashed next = true) (reading : Reading) :
    (∀ read, Reading.scan files registry.definitions command first reading = (read, none) →
        Reading.scan files registry.definitions command (first ++ second) reading =
          Reading.scan files registry.definitions command second read) ∧
      ∀ read failure,
        Reading.scan files registry.definitions command first reading = (read, some failure) →
          Reading.scan files registry.definitions command (first ++ second) reading =
            (read, some failure) := by
  have cut : Reading.scan files registry.definitions command (first ++ second) reading =
      Reading.followedBy (Reading.scan files registry.definitions command first reading)
        (Reading.scan files registry.definitions command second) := by
    refine Reading.scan_append_of_untaken ?_ reading
    intro last hlast key shape d resolved
    refine d.taken_of_idle ?_
    intro takes
    rcases apart with rfl | free | rfl | dashed
    · cases hlast
    · exact absurd ⟨key, Token.ofText_eq_iff.mp shape, d, resolved, takes⟩ (free last hlast)
    · exact fun next hnext => nomatch hnext
    · exact dashed
  constructor
  · intro read done
    rw [cut, done]
    rfl
  · intro read failure failed
    rw [cut, failed]
    rfl

/-- What follows a flag that takes no value is read by itself, and nothing is read behind a number
that is none. -/
theorem scan_in_parts_greetings :
    let files : Files := ⟨.directory [], []⟩
    let start : Reading := ⟨.empty, []⟩
    let named : Reading := ⟨.ofList [("name", "Ann"), ("loud", "true")], ["x"]⟩
    (∀ last ∈ ["x", "-n", "Ann", "--loud"].getLast?, ¬∃ key, BareKey last key ∧
        ∃ d, resolve greetings.definitions "greet" key = .ok d ∧ d.type.takesValue = true) ∧
      (∀ second, Reading.scan files greetings.definitions "greet"
          (["x", "-n", "Ann", "--loud"] ++ second) start =
        Reading.scan files greetings.definitions "greet" second named) ∧
      ∀ second : List String, (∀ next ∈ second.head?, isDashed next = true) →
        Reading.scan files greetings.definitions "greet" (["-t", "x", "-n"] ++ second) start =
          (start, some (.validation (.flagNotInteger "times" "x"))) := by
  intro files start named
  have free : ∀ last ∈ ["x", "-n", "Ann", "--loud"].getLast?, ¬∃ key, BareKey last key ∧
      ∃ d, resolve greetings.definitions "greet" key = .ok d ∧ d.type.takesValue = true := by
    rintro last hlast ⟨key, bare, d, resolved, takes⟩
    obtain rfl : "--loud" = last := Option.some.inj hlast
    have shape : Token.ofText "--loud" = .bare key := Token.ofText_eq_iff.mpr bare
    obtain rfl : "loud" = key := Token.bare.inj shape
    obtain rfl := Except.ok.inj resolved
    cases takes
  refine ⟨free, ?_, ?_⟩
  · intro second
    exact (scan_in_parts (.inr (.inl free)) start).1 named rfl
  · intro second dashed
    exact (scan_in_parts (.inr (.inr (.inr dashed))) start).2 start _ rfl

-- A cut between a key and its value would leave the value over as a positional argument.
example :
    let files : Files := ⟨.directory [], []⟩
    let start : Reading := ⟨.empty, []⟩
    Reading.scan files greetings.definitions "greet" (["-n"] ++ ["Ann"]) start =
        (⟨.ofList [("name", "Ann")], []⟩, none) ∧
      Reading.followedBy (Reading.scan files greetings.definitions "greet" ["-n"] start)
          (Reading.scan files greetings.definitions "greet" ["Ann"]) =
        (⟨.ofList [("name", "true")], ["Ann"]⟩, none) :=
  ⟨rfl, rfl⟩

end Registry

end Toolsmith
