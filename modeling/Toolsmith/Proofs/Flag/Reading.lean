import Toolsmith.Proofs.Flag.Registry
import Toolsmith.Proofs.Text.Segments
/-!
# Reading a command line

How the parts of a reading fit together: what a key denotes among the flags that a command sees
(`resolve_eq_ok_iff`), the shape of the tokens that spell a flag and the steps that they make
(`scan_bare`, `scan_assignment`), and what reading a whole command line leaves in the registry and
how it ends (`parse_fst`, `parse_snd`).  Only a key that takes a value looks past its own token, so
the pass over the tokens can be cut everywhere else (`scan_append_of_untaken`), and always before a
token with a dash in front (`scan_append`).
-/

namespace Toolsmith

namespace Registry

/-! ## 1. Keys -/

/-- A key denotes the first flag that a command sees and that answers to it. -/
theorem resolve_eq_ok_iff {registry : Registry} {command key : String} {d : Definition} :
    resolve registry.definitions command key = .ok d ↔
      (registry.visible command).find? (fun d => d.flag.answersTo key) = some d := by
  simp only [visible, List.find?_filter, Bool.decide_and, Bool.decide_eq_true]
  unfold resolve
  split
  next e found => rw [found, Except.ok.injEq, Option.some.injEq]
  next absent =>
    rw [absent]
    split <;> simp

-- A key denotes nothing for a command if no flag that it sees answers to it.
theorem exists_resolve_eq_error_iff {registry : Registry} {command key : String} :
    (∃ fault, resolve registry.definitions command key = .error fault) ↔
      (registry.visible command).find? (fun d => d.flag.answersTo key) = none := by
  constructor
  · rintro ⟨fault, refused⟩
    cases found : (registry.visible command).find? fun d => d.flag.answersTo key with
    | none => rfl
    | some d =>
      rw [resolve_eq_ok_iff.mpr found] at refused
      cases refused
  · intro absent
    cases resolved : resolve registry.definitions command key with
    | error fault => exact ⟨fault, rfl⟩
    | ok d =>
      rw [resolve_eq_ok_iff.mp resolved] at absent
      cases absent

end Registry

/-! ## 2. Tokens -/

/-- The names of a flag can be told apart in a token: the long one is there and has no equals
sign, and the short one, if there is one, is one character but no dash. -/
structure Flag.Spellable (flag : Flag) : Prop where
  named : flag.long ≠ ""
  long : '=' ∉ flag.long.toList
  short : flag.short ≠ "" → ∃ c, c ≠ '-' ∧ flag.short.toList = [c]

theorem Token.ofText_long {long : String} (absent : '=' ∉ long.toList) :
    Token.ofText ("--" ++ long) = .bare long := by
  have chars : ("--" ++ long).toList = '-' :: '-' :: long.toList := String.toList_append
  unfold Token.ofText
  rw [chars]
  simp only [Text.cutChars_eq_none absent, String.ofList_toList]

theorem Token.ofText_longValue {long : String} (absent : '=' ∉ long.toList) (value : String) :
    Token.ofText ("--" ++ long ++ "=" ++ value) = .assignment long value := by
  have chars : ("--" ++ long ++ "=" ++ value).toList =
      '-' :: '-' :: (long.toList ++ '=' :: value.toList) := by
    simp only [String.toList_append, List.append_assoc]
    rfl
  unfold Token.ofText
  rw [chars]
  simp only [Text.cutChars_append absent, String.ofList_toList]

theorem Token.ofText_short {short : String} {c : Char} (dash : c ≠ '-')
    (single : short.toList = [c]) : Token.ofText ("-" ++ short) = .bare short := by
  have chars : ("-" ++ short).toList = ['-', c] := by
    rw [String.toList_append, single]
    rfl
  unfold Token.ofText
  rw [chars, ← String.ofList_toList (s := short), single]
  -- Of the five shapes, two characters without a second dash fit the third alone.
  split
  next body two =>
    rw [List.cons.injEq, List.cons.injEq] at two
    exact absurd two.2.1 dash
  next one => cases one
  next key two =>
    cases two
    rfl
  next keys _ _ several two =>
    cases two
    exact (several c rfl).elim
  next other => exact (other [c] rfl).elim

-- How a flag is typed is read as one of the keys that it answers to.
theorem Flag.Spellable.ofText {flag : Flag} (h : flag.Spellable) {spelling : String}
    (hspelling : spelling ∈ flag.spellings) :
    ∃ key, flag.answersTo key = true ∧ Token.ofText spelling = .bare key := by
  have long : flag.answersTo flag.long = true := Flag.answersTo_iff.mpr (.inl rfl)
  unfold Flag.spellings Flag.spellingsOf at hspelling
  by_cases none : flag.short = ""
  · rw [if_pos none, List.mem_singleton] at hspelling
    rw [hspelling]
    exact ⟨flag.long, long, Token.ofText_long h.long⟩
  · obtain ⟨c, dash, single⟩ := h.short none
    rw [if_neg none, List.mem_cons, List.mem_singleton] at hspelling
    rcases hspelling with rfl | rfl
    · exact ⟨flag.long, long, Token.ofText_long h.long⟩
    · exact ⟨flag.short, Flag.answersTo_iff.mpr (.inr ⟨none, rfl⟩),
        Token.ofText_short dash single⟩

-- A token without a dash in front is a positional argument.
theorem isDashed_of_ofText_ne {token : String} (h : Token.ofText token ≠ .positional) :
    isDashed token = true := by
  unfold isDashed
  split
  next => rfl
  next other =>
    refine absurd ?_ h
    unfold Token.ofText
    split
    next two => exact (other _ two).elim
    next one => rfl
    next key two => exact (other _ two).elim
    next keys _ _ _ more => exact (other _ more).elim
    next => rfl

/-! ## 3. Steps -/

/-- The value that a flag gets when it is named without one, and the tokens that are left: the
token after it if the flag takes values and the token has no dash in front, else the word for
true. -/
def Definition.taken (d : Definition) : List String → String × List String
  | [] => ("true", [])
  | value :: rest =>
    if d.type.takesValue && !isDashed value then (value, rest) else ("true", value :: rest)

theorem Definition.taken_suffix (d : Definition) (tokens : List String) :
    (d.taken tokens).2 <:+ tokens := by
  cases tokens with
  | nil => exact List.suffix_rfl
  | cons value rest =>
    rw [Definition.taken]
    split
    · exact List.suffix_cons value rest
    · exact List.suffix_rfl

-- A flag that takes no value, or before which none stands, leaves the tokens as they are.
theorem Definition.taken_of_idle (d : Definition) {tokens : List String}
    (idle : d.type.takesValue = true → ∀ next ∈ tokens.head?, isDashed next = true) :
    d.taken tokens = ("true", tokens) := by
  cases tokens with
  | nil => rfl
  | cons next tokens =>
    rw [Definition.taken]
    cases takes : d.type.takesValue with
    | false => rfl
    | true =>
      have dashed : isDashed next = true := idle takes next rfl
      rw [dashed]
      rfl

-- What a flag takes is decided by the first of the tokens behind it.
theorem Definition.taken_append (d : Definition) (value : String) (tokens more : List String) :
    d.taken (value :: tokens ++ more) =
      ((d.taken (value :: tokens)).1, (d.taken (value :: tokens)).2 ++ more) := by
  rw [List.cons_append, Definition.taken, Definition.taken]
  split <;> rfl

theorem Definition.length_taken_le (d : Definition) (tokens : List String) :
    (d.taken tokens).2.length ≤ tokens.length :=
  (d.taken_suffix tokens).length_le

namespace Reading

variable {files : Files} {definitions : List Definition} {command : String}

@[simp] theorem followedBy_pure (outcome : Outcome) :
    followedBy outcome (fun reading => (reading, none)) = outcome := by
  obtain ⟨reading, failure⟩ := outcome
  cases failure <;> rfl

@[simp] theorem followedBy_assoc (outcome : Outcome) (f g : Reading → Outcome) :
    followedBy (followedBy outcome f) g =
      followedBy outcome fun reading => followedBy (f reading) g := by
  obtain ⟨reading, failure⟩ := outcome
  cases failure <;> rfl

theorem get?_store_of_ne (reading : Reading) (d : Definition) (value : String) {long : String}
    (ne : long ≠ d.flag.long) :
    (reading.store files d value).1.values.get? long = reading.values.get? long := by
  unfold store
  cases accept files d.flag.long d.type value with
  | ok v => exact Table.get?_put_of_ne _ _ ne
  | error fault => rfl

section Shapes

variable {token key : String}

theorem scan_assignment {value : String} (shape : Token.ofText token = .assignment key value)
    (tokens : List String) (reading : Reading) :
    scan files definitions command (token :: tokens) reading =
      followedBy (reading.assign files definitions command key value)
        (scan files definitions command tokens) := by
  rw [scan, shape]

theorem scan_cluster {keys : List Char} (shape : Token.ofText token = .cluster keys)
    (tokens : List String) (reading : Reading) :
    scan files definitions command (token :: tokens) reading =
      followedBy (assignAll files definitions command keys reading)
        (scan files definitions command tokens) := by
  rw [scan, shape]

theorem scan_positional (shape : Token.ofText token = .positional) (tokens : List String)
    (reading : Reading) :
    scan files definitions command (token :: tokens) reading =
      scan files definitions command tokens
        { reading with positionals := reading.positionals ++ [token] } := by
  rw [scan, shape]

theorem scan_unresolved (shape : Token.ofText token = .bare key) {fault : UsageFault}
    (refused : resolve definitions command key = .error fault) (tokens : List String)
    (reading : Reading) :
    scan files definitions command (token :: tokens) reading =
      (reading, some (.usage fault)) := by
  rw [scan, shape]
  simp only [refused]

theorem scan_bare (shape : Token.ofText token = .bare key) {d : Definition}
    (resolved : resolve definitions command key = .ok d) (tokens : List String)
    (reading : Reading) :
    scan files definitions command (token :: tokens) reading =
      followedBy (reading.store files d (d.taken tokens).1)
        (scan files definitions command (d.taken tokens).2) := by
  rw [scan, shape]
  simp only [resolved]
  cases tokens with
  | nil => exact (followedBy_pure _).symm
  | cons value rest =>
    unfold Definition.taken
    dsimp only
    split <;> rfl

end Shapes

/-- The pass over the tokens can be cut behind some of them if the last one is not a key that takes
the token behind the cut for its value.  The recursion follows the pass, in which a key that takes a
value passes over two tokens. -/
theorem scan_append_of_untaken {first second : List String}
    (untaken : ∀ last ∈ first.getLast?, ∀ key, Token.ofText last = .bare key →
      ∀ d, resolve definitions command key = .ok d → d.taken second = ("true", second))
    (reading : Reading) :
    scan files definitions command (first ++ second) reading =
      followedBy (scan files definitions command first reading)
        (scan files definitions command second) := by
  match first with
  | [] => rfl
  | token :: tokens =>
    have rest (tokens' : List String) (suffix : tokens' <:+ tokens) :
        scan files definitions command (tokens' ++ second) = fun reading =>
          followedBy (scan files definitions command tokens' reading)
            (scan files definitions command second) := by
      have shorter : tokens'.length < (token :: tokens).length :=
        Nat.lt_succ_of_le suffix.length_le
      refine funext (scan_append_of_untaken fun last hlast => untaken last ?_)
      -- The last token of a rest is the last one of all.
      obtain ⟨front, whole⟩ := suffix.trans (List.suffix_cons token tokens)
      rw [← whole, List.getLast?_append, hlast]
      rfl
    rw [List.cons_append]
    cases shape : Token.ofText token with
    | assignment key value =>
      rw [scan_assignment shape, scan_assignment shape, followedBy_assoc,
        rest tokens List.suffix_rfl]
    | cluster keys =>
      rw [scan_cluster shape, scan_cluster shape, followedBy_assoc, rest tokens List.suffix_rfl]
    | positional =>
      rw [scan_positional shape, scan_positional shape, rest tokens List.suffix_rfl]
    | bare key =>
      cases resolved : resolve definitions command key with
      | error fault =>
        rw [scan_unresolved shape resolved, scan_unresolved shape resolved]
        rfl
      | ok d =>
        rw [scan_bare shape resolved, scan_bare shape resolved, followedBy_assoc,
          ← rest _ (d.taken_suffix tokens)]
        cases tokens with
        | nil =>
          rw [List.nil_append, untaken token rfl key shape d resolved]
          rfl
        | cons value tokens => rw [d.taken_append value tokens second]
termination_by first.length
decreasing_by exact shorter

/-- No key takes a token with a dash in front for its value, so the pass can be cut before it. -/
theorem scan_append {token : String} (dashed : isDashed token = true) (rest : List String)
    (tokens : List String) (reading : Reading) :
    scan files definitions command (tokens ++ token :: rest) reading =
      followedBy (scan files definitions command tokens reading)
        (scan files definitions command (token :: rest)) := by
  refine scan_append_of_untaken ?_ reading
  intro _ _ _ _ d _
  refine d.taken_of_idle fun _ next hnext => ?_
  rw [← Option.some.inj hnext]
  exact dashed

end Reading

namespace Registry

/-! ## 4. Whole command lines -/

/-- The values before a command line is read, and no positional arguments. -/
def start (registry : Registry) (command : String) : Reading := ⟨registry.defaults command, []⟩

def withReading (registry : Registry) (reading : Reading) : Registry :=
  { registry with values := reading.values, positionals := reading.positionals }

def pass (registry : Registry) (files : Files) (command : String) (tokens : List String) :
    Outcome :=
  Reading.scan files registry.definitions command tokens (registry.start command)

/-- The registry holds what the pass over the tokens has read, whether it failed or not. -/
theorem parse_fst (registry : Registry) (files : Files) (command : String)
    (tokens : List String) :
    (registry.parse files command tokens).1 =
      registry.withReading (registry.pass files command tokens).1 := by
  unfold parse pass start withReading
  dsimp only
  split
  · rfl
  · split <;> rfl

section

variable (registry : Registry) (files : Files) (command : String) (tokens : List String)

@[simp] theorem definitions_parse :
    (registry.parse files command tokens).1.definitions = registry.definitions := by
  rw [parse_fst, withReading]

@[simp] theorem groups_parse :
    (registry.parse files command tokens).1.groups = registry.groups := by
  rw [parse_fst, withReading]

@[simp] theorem values_parse :
    (registry.parse files command tokens).1.values =
      (registry.pass files command tokens).1.values := by
  rw [parse_fst, withReading]

@[simp] theorem positionals_parse :
    (registry.parse files command tokens).1.positionals =
      (registry.pass files command tokens).1.positionals := by
  rw [parse_fst, withReading]

@[simp] theorem visible_parse (other : String) :
    (registry.parse files command tokens).1.visible other = registry.visible other := by
  rw [visible, visible, definitions_parse]

end

/-- The first failure counts: of the pass, then of the required flags, then of the groups. -/
theorem parse_snd (registry : Registry) (files : Files) (command : String)
    (tokens : List String) :
    (registry.parse files command tokens).2 =
      (registry.pass files command tokens).2.or
        (((registry.parse files command tokens).1.missing? command).or
          (registry.parse files command tokens).1.conflict? |>.map .usage) := by
  rw [parse_fst]
  unfold parse pass start withReading
  dsimp only
  split
  next failure failed => rw [failed]; rfl
  next passed =>
    rw [passed]
    split
    next fault missing => rw [missing]; rfl
    next complete => rw [complete]; rfl

variable {registry : Registry} {command : String}

-- What the tokens are is forgotten when they have been passed over.
theorem parse_eq_of_pass_eq {files : Files} {first second : List String}
    (same : registry.pass files command first = registry.pass files command second) :
    registry.parse files command first = registry.parse files command second := by
  have read : (registry.parse files command first).1 = (registry.parse files command second).1 := by
    rw [parse_fst, parse_fst, same]
  refine Prod.ext read ?_
  rw [parse_snd, parse_snd, same, read]

/-- A token that denotes a flag stores a value under its name, wherever it stands. -/
theorem pass_append {files : Files} {token key : String} {d : Definition}
    (shape : Token.ofText token = .bare key)
    (resolved : resolve registry.definitions command key = .ok d) (before rest : List String) :
    registry.pass files command (before ++ token :: rest) =
      Reading.followedBy (registry.pass files command before) fun reading =>
        Reading.followedBy (reading.store files d (d.taken rest).1)
          (Reading.scan files registry.definitions command (d.taken rest).2) := by
  have dashed : isDashed token = true := isDashed_of_ofText_ne (by rw [shape]; nofun)
  unfold pass
  rw [Reading.scan_append dashed]
  exact congrArg (Reading.followedBy _) (funext (Reading.scan_bare shape resolved rest))

/-! ## 5. Command lines that are read to their end -/

theorem isSet_iff {long : String} :
    registry.isSet long = true ↔ ∃ value, registry.values.get? long = some value ∧ value ≠ "" := by
  unfold isSet value
  cases registry.values.get? long with
  | none => simp
  | some v => by_cases empty : v = "" <;> simp [empty]

theorem missing?_eq_none_iff :
    registry.missing? command = none ↔
      ∀ d ∈ registry.visible command, d.flag.required = true →
        registry.isSet d.flag.long = true := by
  simp [missing?]

theorem conflict?_eq_none_iff :
    registry.conflict? = none ↔
      ∀ longs ∈ registry.groups.values,
        (longs.filter fun long => registry.isSet long).length ≤ 1 := by
  simp [conflict?]

/-- A command line is read to its end if the pass over the tokens is, every required flag that the
command sees is set, and no group has two flags set. -/
theorem parse_snd_eq_none_iff {files : Files} {tokens : List String} :
    (registry.parse files command tokens).2 = none ↔
      (registry.pass files command tokens).2 = none ∧
        (registry.parse files command tokens).1.missing? command = none ∧
          (registry.parse files command tokens).1.conflict? = none := by
  rw [parse_snd]
  simp

end Registry

end Toolsmith
