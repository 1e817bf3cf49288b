import Toolsmith.Proofs.Flag.Steps
/-!
# Values that a command line assigns

From left to right the tokens of a command line assign values to keys, each by its shape and by
the token after it (`Assigns`).  If the command line is read to its end, every key denotes a flag
and every value fits its type.  Each flag that the command sees then holds the last value that was
assigned to it, and if there is none, its default (`values_of_parse`).
-/

namespace Toolsmith

/-! ## 1. Values of a type -/

namespace ValueType

/-- A value is of a type.  For a path that means that something is there. -/
def Fits (files : Files) (value : String) : ValueType → Prop
  | .text | .switch => True
  | .integer => ∃ digits : List Char, digits ≠ [] ∧ (∀ c ∈ digits, c.isDigit = true) ∧
      (value.toList = digits ∨ value.toList = '-' :: digits)
  | .boolean =>
    Text.lowerLetters value ∈ Check.trueWords ∨ Text.lowerLetters value ∈ Check.falseWords
  | .path => files.has value = true
  | .choice choices => value ∈ choices

/-- The form in which a value of a type is stored: one word for true and one for false. -/
def kept (value : String) : ValueType → String
  | .boolean => if Text.lowerLetters value ∈ Check.trueWords then "true" else "false"
  | _ => value

end ValueType

theorem Check.isInteger_iff {value : String} :
    Check.isInteger value = true ↔ ∃ digits : List Char, digits ≠ [] ∧
      (∀ c ∈ digits, c.isDigit = true) ∧
        (value.toList = digits ∨ value.toList = '-' :: digits) := by
  unfold isInteger Decimal.isIntegerChars
  split
  next cs chars =>
    rw [chars]
    constructor
    · intro h
      exact ⟨cs, by simpa using h⟩
    · rintro ⟨digits, some, digit, rfl | same⟩
      · -- The minus sign is no digit.
        exact absurd (digit '-' List.mem_cons_self) (by decide)
      · obtain rfl := (List.cons.inj same).2
        simpa using ⟨some, digit⟩
  next unsigned =>
    constructor
    · intro h
      exact ⟨value.toList, by simpa using h⟩
    · rintro ⟨digits, some, digit, same | same⟩
      · rw [same]
        simpa using ⟨some, digit⟩
      · exact (unsigned digits same).elim

theorem Check.isBoolean_iff {value : String} :
    Check.isBoolean value = true ↔
      Text.lowerLetters value ∈ trueWords ∨ Text.lowerLetters value ∈ falseWords := by
  simp [isBoolean]

variable {files : Files}

/-- A value is accepted if it is of the type of the flag. -/
theorem accept_eq_ok_iff {long value stored : String} {type : ValueType} :
    accept files long type value = .ok stored ↔
      type.Fits files value ∧ type.kept value = stored := by
  cases type with
  | text | switch => simp [accept, ValueType.Fits, ValueType.kept]
  | integer =>
    rw [ValueType.Fits, ← Check.isInteger_iff]
    cases fits : Check.isInteger value <;> simp [accept, ValueType.kept, fits]
  | boolean =>
    rw [ValueType.Fits, ← Check.isBoolean_iff]
    cases fits : Check.isBoolean value <;>
      simp [accept, ValueType.kept, Check.normalizeBoolean, fits]
  | path =>
    cases fits : files.has value <;> simp [accept, ValueType.Fits, ValueType.kept, fits]
  | choice choices =>
    by_cases fits : value ∈ choices <;>
      simp [accept, ValueType.Fits, ValueType.kept, Check.isChoice, fits]

namespace Registry

variable {registry : Registry} {command : String} {d : Definition}

/-! ## 2. Assignments -/

/-- From left to right, some tokens assign these values to these keys. -/
inductive Assigns (registry : Registry) (command : String) :
    List String → List (String × String) → Prop
  | nil : Assigns registry command [] []
  | cons {token : String} {rest : List String} {shape : Token} {later : List (String × String)}
      (written : shape.Written token) (others : Assigns registry command rest later) :
      Assigns registry command (token :: rest) (registry.assignmentsOf command rest shape ++ later)

/-- The values that go to a flag, in their order. -/
def assignedTo (registry : Registry) (command : String) (d : Definition)
    (assignments : List (String × String)) : List String :=
  (assignments.filter fun a => registry.denoted? command a.1 = some d).map Prod.snd

theorem assignedTo_cons_of_denoted {a : String × String}
    (denoted : registry.denoted? command a.1 = some d) (assignments : List (String × String)) :
    registry.assignedTo command d (a :: assignments) =
      a.2 :: registry.assignedTo command d assignments := by
  rw [assignedTo, List.filter_cons_of_pos (by simpa using denoted)]
  rfl

theorem assignedTo_cons_of_ne {a : String × String}
    (other : registry.denoted? command a.1 ≠ some d) (assignments : List (String × String)) :
    registry.assignedTo command d (a :: assignments) =
      registry.assignedTo command d assignments := by
  rw [assignedTo, List.filter_cons_of_neg (by simpa using other)]
  rfl

def Step.assignment? : Step → Option (String × String)
  | .set key value => some (key, value)
  | .keep _ => none

theorem filterMap_assignment?_stepsOf (waiting : Bool) (token : String) (rest : List String) :
    (registry.stepsOf command waiting token rest).filterMap Step.assignment? =
      registry.assignmentsOf command rest (Token.ofText token) := by
  unfold stepsOf
  split
  next shape =>
    rw [shape]
    split <;> rfl
  next =>
    rw [List.filterMap_map]
    exact List.filterMap_some

/-- Tokens make exactly the assignments among their steps. -/
theorem assigns_iff (waiting : Bool) {tokens : List String} {assignments : List (String × String)} :
    registry.Assigns command tokens assignments ↔
      assignments = (registry.steps command waiting tokens).filterMap Step.assignment? := by
  induction tokens generalizing waiting assignments with
  | nil =>
    constructor
    · rintro ⟨⟩
      rfl
    · rintro rfl
      exact .nil
  | cons token rest ih =>
    rw [steps, List.filterMap_append, filterMap_assignment?_stepsOf]
    constructor
    · rintro (_ | ⟨written, others⟩)
      rw [Token.ofText_of_written written, (ih _).mp others]
    · rintro rfl
      exact .cons (Token.written_ofText token) ((ih _).mpr rfl)

/-! ## 3. What the steps store -/

variable {files : Files}

-- An assignment that does not fail stores a value of its flag.
theorem exists_of_assign {key value : String} {reading : Reading}
    (done : (reading.assign files registry.definitions command key value).2 = none) :
    ∃ e, registry.denoted? command key = some e ∧ e.type.Fits files value ∧
      (reading.assign files registry.definitions command key value).1 =
        { reading with values := reading.values.put e.flag.long (e.type.kept value) } := by
  obtain ⟨e, resolved⟩ := exists_resolve_of_assign done
  rw [Reading.assign, resolved] at done ⊢
  dsimp only [Reading.store] at done ⊢
  cases accepted : accept files e.flag.long e.type value with
  | error fault =>
    rw [accepted] at done
    cases done
  | ok stored =>
    obtain ⟨fits, rfl⟩ := accept_eq_ok_iff.mp accepted
    exact ⟨e, resolve_eq_ok_iff_denoted?.mp resolved, fits, rfl⟩

theorem fits_of_carryOut {steps : List Step} {reading : Reading}
    (done : (registry.carryOut files command steps reading).2 = none) :
    ∀ a ∈ steps.filterMap Step.assignment?,
      ∃ e, registry.denoted? command a.1 = some e ∧ e.type.Fits files a.2 := by
  induction steps generalizing reading with
  | nil => exact List.forall_mem_nil _
  | cons step steps ih =>
    cases step with
    | set key value =>
      obtain ⟨first, rest⟩ := followedBy_snd_eq_none_iff.mp done
      obtain ⟨e, denoted, fits, -⟩ := exists_of_assign first
      exact List.forall_mem_cons.mpr ⟨⟨e, denoted, fits⟩, ih rest⟩
    | keep token => exact ih done

/-- Of the values that the steps assign to a flag the last one stays.  No two flags that a command
sees have one long name, so no other assignment overwrites it. -/
theorem Apart.get?_carryOut (apart : registry.Apart) (hd : d ∈ registry.visible command)
    {steps : List Step} {reading : Reading}
    (done : (registry.carryOut files command steps reading).2 = none) :
    (registry.carryOut files command steps reading).1.values.get? d.flag.long =
      ((registry.assignedTo command d (steps.filterMap Step.assignment?)).getLast?.map
        d.type.kept).or (reading.values.get? d.flag.long) := by
  induction steps generalizing reading with
  | nil => rfl
  | cons step steps ih =>
    cases step with
    | keep token => exact ih done
    | set key value =>
      obtain ⟨first, rest⟩ := followedBy_snd_eq_none_iff.mp done
      obtain ⟨e, denoted, -, stored⟩ := exists_of_assign first
      rw [carryOut, followedBy_of_snd first, ih rest, stored]
      show _ = ((registry.assignedTo command d ((key, value) :: steps.filterMap _)).getLast?.map
        _).or _
      by_cases same : e = d
      · subst same
        rw [assignedTo_cons_of_denoted denoted, List.getLast?_cons, Table.get?_put_self]
        cases (registry.assignedTo command e (steps.filterMap Step.assignment?)).getLast? <;> rfl
      · have ne : d.flag.long ≠ e.flag.long := by
          intro long
          exact same (apart.eq_of_long_eq hd (List.mem_of_find?_eq_some denoted) long).symm
        have other : registry.denoted? command key ≠ some d := by
          rw [denoted]
          exact fun h => same (Option.some.inj h)
        rw [assignedTo_cons_of_ne other, Table.get?_put_of_ne _ _ ne]

/-! ## 4. Command lines -/

/-- In a command line that is read to its end every key denotes a flag and every value is of its
type.  A flag that the command sees holds the last value that the tokens assign to it, in the form
that is kept, or else its default.  All this is so as long as no two flags clash, which is what
registrations see to (`Built.apart`). -/
theorem values_of_parse (apart : registry.Apart) {tokens : List String}
    (read : (registry.parse files command tokens).2 = none) :
    ∃ assignments, (∀ others, registry.Assigns command tokens others ↔ others = assignments) ∧
      (∀ a ∈ assignments,
        ∃ e, registry.denoted? command a.1 = some e ∧ e.type.Fits files a.2) ∧
      ∀ d ∈ registry.visible command,
        (∀ value, (registry.assignedTo command d assignments).getLast? = some value →
          (registry.parse files command tokens).1.values.get? d.flag.long =
            some (d.type.kept value)) ∧
        (registry.assignedTo command d assignments = [] → d.flag.default ≠ "" →
          (registry.parse files command tokens).1.values.get? d.flag.long =
            some d.flag.default) := by
  have passed : (registry.pass files command tokens).2 = none := (parse_snd_eq_none_iff.mp read).1
  unfold pass at passed
  rw [scan_eq_carryOut] at passed
  refine ⟨(registry.steps command false tokens).filterMap Step.assignment?,
    fun others => assigns_iff false, fits_of_carryOut passed, ?_⟩
  intro d hd
  have stored := apart.get?_carryOut hd passed
  rw [← scan_eq_carryOut] at stored
  rw [values_parse]
  constructor
  · intro value last
    rw [last] at stored
    exact stored
  · intro unassigned default
    rw [unassigned] at stored
    have start : (registry.start command).values.get? d.flag.long = some d.flag.default := by
      show (registry.defaults command).get? d.flag.long = _
      rw [get?_defaults, apart.lastDefault_visible hd, if_neg default, Option.some_or]
    exact stored.trans start

def greetLine : List String := ["--times", "3", "-t", "5", "x", "-l", "--loud=NO"]

/-- Of two numbers the last one stays, a word for a truth value gives way to the one that is kept,
and a name that is not given is the default. -/
theorem values_greetings :
    greetings.Apart ∧ (greetings.parse ⟨.directory [], []⟩ "greet" greetLine).2 = none ∧
      let values := (greetings.parse ⟨.directory [], []⟩ "greet" greetLine).1.values
      values.get? "times" = some "5" ∧ values.get? "loud" = some "false" ∧
        values.get? "name" = some "World" := by
  have apart : greetings.Apart := by
    unfold Apart
    decide
  have read : (greetings.parse ⟨.directory [], []⟩ "greet" greetLine).2 = none := rfl
  refine ⟨apart, read, ?_⟩
  obtain ⟨assignments, unique, -, values⟩ := values_of_parse apart read
  have assigns : greetings.Assigns "greet" greetLine
      [("times", "3"), ("t", "5"), ("l", "true"), ("loud", "NO")] := (assigns_iff false).mpr rfl
  obtain rfl := (unique _).mp assigns
  exact ⟨(values (greetDefinitions.get ⟨0, by decide⟩) (by decide)).1 "5" rfl,
    (values (greetDefinitions.get ⟨1, by decide⟩) (by decide)).1 "NO" rfl,
    (values (greetDefinitions.get ⟨2, by decide⟩) (by decide)).2 rfl (by decide)⟩

end Registry

end Toolsmith
