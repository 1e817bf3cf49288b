import Toolsmith.Proofs.Decimal.Integer
import Toolsmith.Proofs.Flag.Assigned
/-!
# Numbers that are demanded

What a value denotes as an integer or as a port is said by its digits.  A demand gives that number
and refuses every value that denotes none, as long as the value has no more digits than are read
(`classifies_iff`).  A numeral that is longer is neither read nor refused: it is an accident.
-/

namespace Toolsmith

/-! ## 1. What values denote -/

namespace Check

/-- A row of ASCII digits and the number that it denotes in base ten. -/
structure Row (digits : List Char) (n : Nat) : Prop where
  nonempty : digits ≠ []
  digit : ∀ c ∈ digits, c.isDigit = true
  value : Nat.ofDigits 10 (digits.reverse.map fun c => c.toNat - '0'.toNat) = n

/-- The integer that a value denotes: a row of digits, with or without a minus sign. -/
inductive Denotes (value : String) : Int → Prop
  | unsigned {n : Nat} (row : Row value.toList n) : Denotes value n
  | negative {digits : List Char} {n : Nat} (chars : value.toList = '-' :: digits)
      (row : Row digits n) : Denotes value (-n)

/-- The port that a value denotes: a row of digits, and a number from 1 to 65535. -/
def DenotesPort (value : String) (n : Int) : Prop :=
  ∃ m : Nat, Row value.toList m ∧ 1 ≤ m ∧ m ≤ 65535 ∧ n = m

/-- A value with more digits than are read, a minus sign in front not counted. -/
def Overlong (value : String) : Prop :=
  Decimal.digitLimit < Decimal.digitCount value.toList

instance (value : String) : Decidable (Overlong value) := inferInstanceAs (Decidable (_ < _))

/-- A demand gives what a value denotes, and refuses the value if it denotes nothing. -/
def Classifies (denotes : Int → Prop) (fault : ValidationFault) (demand : Except Failure Int) :
    Prop :=
  (∀ n, denotes n → demand = .ok n) ∧ ((∀ n, ¬denotes n) → demand = .error (.validation fault))

def tooLong (value : String) : Failure :=
  .accident (.numeral (.tooLong (Decimal.digitCount value.toList)))

theorem Row.ofDigits_eq {digits : List Char} {n : Nat} (row : Row digits n) :
    Decimal.ofDigits (digits.map Decimal.digitValue) = n := by
  rw [Decimal.ofDigits_eq, ← List.map_reverse]
  exact row.value

theorem Row.minus_not_mem {digits : List Char} {n : Nat} (row : Row digits n) :
    '-' ∉ digits := by
  intro minus
  have digit := row.digit '-' minus
  revert digit
  decide

theorem row_iff {digits : List Char} :
    (∃ n, Row digits n) ↔ digits ≠ [] ∧ ∀ c ∈ digits, c.isDigit = true := by
  constructor
  · rintro ⟨n, row⟩
    exact ⟨row.nonempty, row.digit⟩
  · rintro ⟨nonempty, digit⟩
    exact ⟨_, nonempty, digit, rfl⟩

/-! ## 2. Integers -/

theorem denotes_iff {value : String} : (∃ n, Denotes value n) ↔ isInteger value = true := by
  rw [isInteger_iff]
  constructor
  · rintro ⟨_, row | ⟨chars, row⟩⟩
    · exact ⟨_, row.nonempty, row.digit, .inl rfl⟩
    · exact ⟨_, row.nonempty, row.digit, .inr chars⟩
  · rintro ⟨digits, nonempty, digit, rfl | chars⟩
    · exact ⟨_, .unsigned ⟨nonempty, digit, rfl⟩⟩
    · exact ⟨_, .negative chars ⟨nonempty, digit, rfl⟩⟩

-- The first character tells whether there is a sign, so that a value denotes one integer at most.
theorem Denotes.integerOfChars_eq {value : String} {n : Int} (denotes : Denotes value n) :
    Decimal.integerOfChars value.toList = n := by
  cases denotes with
  | unsigned row =>
    unfold Decimal.integerOfChars
    split
    next cs chars =>
      have minus : '-' ∈ value.toList := by
        rw [chars]
        exact List.mem_cons_self
      exact absurd minus row.minus_not_mem
    next => rw [row.ofDigits_eq]
  | negative chars row =>
    rw [chars]
    show -(Decimal.ofDigits _ : Int) = _
    rw [row.ofDigits_eq]

-- A numeral is read if it is short enough, and else it is the number of its digits that counts.
theorem Denotes.readInteger_eq {value : String} {n : Int} (denotes : Denotes value n) :
    (Overlong value → Decimal.readInteger value.toList =
        .error (.tooLong (Decimal.digitCount value.toList))) ∧
      (¬Overlong value → Decimal.readInteger value.toList = .ok n) := by
  constructor
  · intro overlong
    exact if_pos overlong
  · intro short
    rw [← denotes.integerOfChars_eq]
    exact if_neg short

theorem requireInteger_of_denotes (name : String) {value : String} {n : Int}
    (denotes : Denotes value n) :
    (Overlong value → requireInteger name value = .error (tooLong value)) ∧
      (¬Overlong value → requireInteger name value = .ok n) := by
  have integer : isInteger value = true := denotes_iff.mp ⟨n, denotes⟩
  unfold requireInteger
  rw [if_pos integer]
  constructor
  · intro overlong
    rw [denotes.readInteger_eq.1 overlong]
    rfl
  · intro short
    rw [denotes.readInteger_eq.2 short]
    rfl

theorem requireInteger_of_not_denotes (name : String) {value : String}
    (denotes : ¬∃ n, Denotes value n) :
    requireInteger name value = .error (.validation (.notInteger name value)) := by
  unfold requireInteger
  rw [if_neg (mt denotes_iff.mpr denotes)]

theorem classifies_requireInteger_iff (name value : String) :
    Classifies (Denotes value) (.notInteger name value) (requireInteger name value) ↔
      ¬((∃ n, Denotes value n) ∧ Overlong value) := by
  constructor
  · rintro ⟨accepted, -⟩ ⟨⟨n, denotes⟩, overlong⟩
    have accident := (requireInteger_of_denotes name denotes).1 overlong
    rw [accepted n denotes] at accident
    cases accident
  · intro fitting
    refine ⟨fun n denotes => ?_, fun none => ?_⟩
    · have short : ¬Overlong value := fun overlong => fitting ⟨⟨n, denotes⟩, overlong⟩
      exact (requireInteger_of_denotes name denotes).2 short
    · exact requireInteger_of_not_denotes name (not_exists.mpr none)

/-! ## 3. Ports -/

theorem isRow_iff {value : String} :
    (value.toList.isEmpty || !value.toList.all Char.isDigit) = false ↔
      ∃ n, Row value.toList n := by
  rw [row_iff, Bool.or_eq_false_iff, List.isEmpty_eq_false_iff, Bool.not_eq_false',
    List.all_eq_true]

theorem requirePort_of_row (name : String) {value : String} {n : Nat}
    (row : Row value.toList n) :
    (Overlong value → requirePort name value = .error (tooLong value)) ∧
      (¬Overlong value → 1 ≤ n ∧ n ≤ 65535 → requirePort name value = .ok n) ∧
      (¬Overlong value → ¬(1 ≤ n ∧ n ≤ 65535) →
        requirePort name value = .error (.validation (.notPort name value))) := by
  have number := (Denotes.unsigned row).readInteger_eq
  unfold requirePort portNumber?
  rw [isRow_iff.mpr ⟨n, row⟩, if_neg Bool.false_ne_true]
  refine ⟨?_, ?_, ?_⟩
  · intro overlong
    rw [number.1 overlong]
    rfl
  · intro short within
    rw [number.2 short]
    dsimp only
    rw [if_pos (by omega)]
    rfl
  · intro short beyond
    rw [number.2 short]
    dsimp only
    rw [if_neg (by omega)]
    rfl

theorem requirePort_of_no_row (name : String) {value : String}
    (row : ¬∃ n, Row value.toList n) :
    requirePort name value = .error (.validation (.notPort name value)) := by
  unfold requirePort portNumber?
  rw [if_pos (Bool.not_eq_false _ ▸ mt isRow_iff.mp row)]
  rfl

theorem classifies_requirePort_iff (name value : String) :
    Classifies (DenotesPort value) (.notPort name value) (requirePort name value) ↔
      ¬((∃ n, Row value.toList n) ∧ Overlong value) := by
  constructor
  · -- An accident is no refusal, whatever number the row denotes.
    rintro ⟨accepted, refused⟩ ⟨⟨n, row⟩, overlong⟩
    have accident := (requirePort_of_row name row).1 overlong
    by_cases port : ∃ m, DenotesPort value m
    · obtain ⟨m, port⟩ := port
      rw [accepted m port] at accident
      cases accident
    · rw [refused (not_exists.mp port)] at accident
      cases accident
  · intro fitting
    refine ⟨?_, fun none => ?_⟩
    · rintro _ ⟨n, row, low, high, rfl⟩
      have short : ¬Overlong value := fun overlong => fitting ⟨⟨n, row⟩, overlong⟩
      exact (requirePort_of_row name row).2.1 short ⟨low, high⟩
    · by_cases row : ∃ n, Row value.toList n
      · obtain ⟨n, row⟩ := row
        have short : ¬Overlong value := fun overlong => fitting ⟨⟨n, row⟩, overlong⟩
        exact (requirePort_of_row name row).2.2 short
          fun within => none n ⟨n, row, within.1, within.2, rfl⟩
      · exact requirePort_of_no_row name row

end Check

/-! ## 4. Values of flags -/

-- What a flag holds after a command line, unless it is what it held before, was given by a token.
theorem Registry.Apart.exists_fits_of_parse {registry : Registry} (apart : registry.Apart)
    {files : Files} {command : String} {tokens : List String} {d : Definition}
    (hd : d ∈ registry.visible command) (read : (registry.parse files command tokens).2 = none)
    {value : String}
    (holds : (registry.parse files command tokens).1.values.get? d.flag.long = some value)
    (given : (registry.defaults command).get? d.flag.long ≠ some value) :
    ∃ typed, d.type.Fits files typed ∧ d.type.kept typed = value := by
  have passed : (registry.pass files command tokens).2 = none := (parse_snd_eq_none_iff.mp read).1
  rw [values_parse] at holds
  unfold pass at passed holds
  rw [scan_eq_carryOut] at passed holds
  rw [apart.get?_carryOut hd passed] at holds
  cases last : (registry.assignedTo command d
      ((registry.steps command false tokens).filterMap Step.assignment?)).getLast? with
  | none =>
    rw [last] at holds
    exact absurd holds given
  | some typed =>
    rw [last] at holds
    obtain ⟨a, ha, rfl⟩ := List.mem_map.mp (List.mem_of_getLast? last)
    obtain ⟨assigned, denoted⟩ := List.mem_filter.mp ha
    obtain ⟨e, denoted', fits⟩ := fits_of_carryOut passed a assigned
    obtain rfl : e = d := Option.some.inj (denoted'.symm.trans (of_decide_eq_true denoted))
    exact ⟨a.2, fits, Option.some.inj holds⟩

namespace Check

/-- A demand for an integer, and one for a port, gives the number that the value denotes, and
refuses a value that denotes none; but for numerals with more digits than are read, and these are
an accident in both.  So a value that a command line gave to a flag for integers denotes one, and
a demand gives it if and only if it is short enough. -/
theorem classifies_iff (name value : String) :
    (Classifies (Denotes value) (.notInteger name value) (requireInteger name value) ↔
        ¬((∃ n, Denotes value n) ∧ Overlong value)) ∧
      (Classifies (DenotesPort value) (.notPort name value) (requirePort name value) ↔
        ¬((∃ n, Row value.toList n) ∧ Overlong value)) ∧
      ((∃ n, Denotes value n) → Overlong value →
        requireInteger name value = .error (tooLong value)) ∧
      ((∃ n, Row value.toList n) → Overlong value →
        requirePort name value = .error (tooLong value)) ∧
      ∀ (registry : Registry) (files : Files) (command : String) (tokens : List String),
        registry.Apart → (registry.parse files command tokens).2 = none →
        ∀ d ∈ registry.visible command, d.type = .integer →
          (registry.parse files command tokens).1.values.get? d.flag.long = some value →
          (registry.defaults command).get? d.flag.long ≠ some value →
          (∃ n, Denotes value n) ∧
            ((∃ n, Denotes value n ∧ requireInteger name value = .ok n) ↔ ¬Overlong value) := by
  refine ⟨classifies_requireInteger_iff name value, classifies_requirePort_iff name value,
    ?_, ?_, ?_⟩
  · rintro ⟨n, denotes⟩
    exact (requireInteger_of_denotes name denotes).1
  · rintro ⟨n, row⟩
    exact (requirePort_of_row name row).1
  · intro registry files command tokens apart read d hd type holds given
    obtain ⟨typed, fits, kept⟩ := apart.exists_fits_of_parse hd read holds given
    rw [type] at fits kept
    obtain rfl : typed = value := kept
    obtain ⟨n, denotes⟩ := denotes_iff.mpr (isInteger_iff.mpr fits)
    have demand := requireInteger_of_denotes name denotes
    refine ⟨⟨n, denotes⟩, ?_, fun short => ⟨n, denotes, demand.2 short⟩⟩
    rintro ⟨m, -, accepted⟩ overlong
    rw [demand.1 overlong] at accepted
    cases accepted

/-- A number with a sign and zeros in front, from a command line, is an integer and no port; without
the sign it is both. -/
theorem demanded_times :
    let read := Registry.greetings.parse ⟨.directory [], []⟩ "greet" ["--times=-0042"]
    read.2 = none ∧ read.1.values.get? "times" = some "-0042" ∧
      (∃ n, Denotes "-0042" n ∧ requireInteger "times" "-0042" = .ok n) ∧
      requirePort "times" "-0042" = .error (.validation (.notPort "times" "-0042")) ∧
      requireInteger "times" "0042" = .ok 42 ∧ requirePort "times" "0042" = .ok 42 := by
  intro read
  have apart : Registry.greetings.Apart := by
    unfold Registry.Apart
    decide
  have row : Row "0042".toList 42 := ⟨by decide, by decide, rfl⟩
  have signed : ∀ n, ¬Row "-0042".toList n := fun n row => row.minus_not_mem (by decide)
  obtain ⟨-, ports, -, -, stored⟩ := classifies_iff "times" "-0042"
  have refused := ports.mpr fun ⟨⟨n, row⟩, _⟩ => signed n row
  have given := stored Registry.greetings ⟨.directory [], []⟩ "greet" ["--times=-0042"] apart rfl
    (Registry.greetDefinitions.get ⟨0, by decide⟩) (by decide) rfl rfl (by decide)
  obtain ⟨integers, unsigned, -⟩ := classifies_iff "times" "0042"
  have short : ¬Overlong "0042" := by decide
  exact ⟨rfl, rfl, given.2.mpr (by decide), refused.2 fun n ⟨m, row, _⟩ => signed m row,
    (integers.mpr fun long => short long.2).1 42 (.unsigned row),
    (unsigned.mpr fun long => short long.2).1 42 ⟨42, row, by decide, by decide, rfl⟩⟩

def paddedOne (zeros : Nat) : String := String.ofList (List.replicate zeros '0' ++ ['1'])

theorem row_paddedOne (zeros : Nat) : Row (paddedOne zeros).toList 1 := by
  have zero : '0'.toNat - '0'.toNat = 0 := rfl
  have one : ['1'].reverse.map (fun c => c.toNat - '0'.toNat) = [1] := rfl
  rw [paddedOne, String.toList_ofList]
  constructor
  case nonempty => exact List.append_ne_nil_of_right_ne_nil _ (List.cons_ne_nil _ _)
  case digit =>
    refine List.forall_mem_append.mpr ⟨?_, by decide⟩
    intro c hc
    rw [List.eq_of_mem_replicate hc]
    decide
  case value =>
    rw [List.reverse_append, List.reverse_replicate, List.map_append, List.map_replicate, zero,
      one, Nat.ofDigits_append_replicate_zero, Nat.ofDigits_singleton]

theorem digitCount_paddedOne (zeros : Nat) :
    Decimal.digitCount (paddedOne zeros).toList = zeros + 1 := by
  have unsigned :
      Decimal.digitCount (paddedOne zeros).toList = (paddedOne zeros).toList.length := by
    unfold Decimal.digitCount
    split
    next cs signed => exact absurd (signed ▸ List.mem_cons_self) (row_paddedOne zeros).minus_not_mem
    next => rfl
  rw [unsigned, paddedOne, String.toList_ofList, List.length_append, List.length_replicate,
    List.length_singleton]

/-- A number with too many zeros in front is an integer and a port, and no demand gives it. -/
theorem paddedOne_not_given :
    let value := paddedOne Decimal.digitLimit
    Denotes value 1 ∧ DenotesPort value 1 ∧
      ¬Classifies (Denotes value) (.notInteger "count" value) (requireInteger "count" value) ∧
      ¬Classifies (DenotesPort value) (.notPort "count" value) (requirePort "count" value) := by
  intro value
  have row : Row value.toList 1 := row_paddedOne Decimal.digitLimit
  have overlong : Overlong value := by
    rw [Overlong, digitCount_paddedOne]
    exact Nat.lt_add_one Decimal.digitLimit
  refine ⟨.unsigned row, ⟨1, row, le_refl 1, by decide, rfl⟩, ?_, ?_⟩
  · rw [classifies_requireInteger_iff]
    exact not_not.mpr ⟨⟨1, .unsigned row⟩, overlong⟩
  · rw [classifies_requirePort_iff]
    exact not_not.mpr ⟨⟨1, row⟩, overlong⟩

end Check

end Toolsmith
