import Toolsmith.Json.Reader
import Toolsmith.Proofs.Decimal.Integer
import Toolsmith.Proofs.Text.Lines
import Mathlib.Data.List.TakeWhile
/-!
# The tokens of JSON texts

Blanks, numbers and strings as a grammar spells them, without a limit to their size.  The scanners
find each of them as it is spelled, and what they find is spelled so.  An integer that is spelled is
read if it is short and is refused for its size if not (`weighed_value`).
-/

namespace Toolsmith.Json

/-! ## 1. Blanks -/

/-- A text and what is left of it behind some blanks. -/
inductive Spaced : List Char → List Char → Prop
  | refl {cs : List Char} : Spaced cs cs
  | cons {c : Char} {cs rest : List Char} (space : isSpace c = true) (more : Spaced cs rest) :
      Spaced (c :: cs) rest

theorem skipSpace_cons_of_space {c : Char} (space : isSpace c = true) (cs : List Char) :
    skipSpace (c :: cs) = skipSpace cs := List.dropWhile_cons_of_pos space

theorem skipSpace_cons_of_not {c : Char} (other : isSpace c = false) (cs : List Char) :
    skipSpace (c :: cs) = c :: cs := by
  refine List.dropWhile_cons_of_neg ?_
  rw [other]
  exact Bool.false_ne_true

theorem spaced_skipSpace (cs : List Char) : Spaced cs (skipSpace cs) := by
  induction cs with
  | nil => exact .refl
  | cons c cs ih =>
    cases space : isSpace c with
    | true =>
      rw [skipSpace_cons_of_space space]
      exact .cons space ih
    | false =>
      rw [skipSpace_cons_of_not space]
      exact .refl

theorem Spaced.skipSpace_eq {cs rest : List Char} (h : Spaced cs rest) :
    skipSpace cs = skipSpace rest := by
  induction h with
  | refl => rfl
  | cons space more ih => rw [skipSpace_cons_of_space space, ih]

theorem Spaced.suffix {cs rest : List Char} (h : Spaced cs rest) : rest <:+ cs := by
  induction h with
  | refl => exact List.suffix_rfl
  | cons space more ih => exact ih.trans (List.suffix_cons _ _)

theorem Spaced.unifyNewlines {cs rest : List Char} (h : Spaced cs rest) :
    Spaced (Text.unifyNewlines cs) (Text.unifyNewlines rest) := by
  induction h with
  | refl => exact .refl
  | @cons c cs rest space more ih =>
    by_cases feed : c = '\r'
    · rcases Text.unifyNewlines_return cs with same | same
      · rw [feed, same]
        exact ih
      · rw [feed, same]
        exact .cons (by decide) ih
    · rw [Text.unifyNewlines_cons feed]
      exact .cons space ih

/-! ## 2. Numbers -/

/-- The digits of a whole number: a zero alone, or digits that begin with another. -/
inductive SpellsWhole : List Char → Prop
  | zero : SpellsWhole ['0']
  | digits {c : Char} {row : List Char} (nonzero : c ≠ '0')
      (digits : (c :: row).all Char.isDigit = true) : SpellsWhole (c :: row)

inductive SpellsPlaces : List Char → Option (List Char) → Prop
  | none : SpellsPlaces [] none
  | some {row : List Char} (nonempty : row ≠ []) (digits : row.all Char.isDigit = true) :
      SpellsPlaces ('.' :: row) (some row)

def rowValue (row : List Char) : Nat := Decimal.ofDigits (row.map Decimal.digitValue)

inductive SpellsExponent : List Char → Option Int → Prop
  | none : SpellsExponent [] none
  | unsigned {e : Char} {row : List Char} (letter : e = 'e' ∨ e = 'E') (nonempty : row ≠ [])
      (digits : row.all Char.isDigit = true) : SpellsExponent (e :: row) (some (rowValue row))
  | plus {e : Char} {row : List Char} (letter : e = 'e' ∨ e = 'E') (nonempty : row ≠ [])
      (digits : row.all Char.isDigit = true) :
      SpellsExponent (e :: '+' :: row) (some (rowValue row))
  | minus {e : Char} {row : List Char} (letter : e = 'e' ∨ e = 'E') (nonempty : row ≠ [])
      (digits : row.all Char.isDigit = true) :
      SpellsExponent (e :: '-' :: row) (some (-(rowValue row : Int)))

def sign (negative : Bool) : List Char := if negative then ['-'] else []

inductive SpellsNumeral : List Char → Numeral → Prop
  | parts {negative : Bool} {whole fraction power : List Char} {places : Option (List Char)}
      {exponent : Option Int} (whole_spelled : SpellsWhole whole)
      (places_spelled : SpellsPlaces fraction places)
      (exponent_spelled : SpellsExponent power exponent) :
      SpellsNumeral (sign negative ++ whole ++ fraction ++ power)
        ⟨negative, whole, places, exponent⟩

theorem SpellsWhole.spellsNumeral {whole : List Char} (h : SpellsWhole whole) :
    SpellsNumeral whole ⟨false, whole, none, none⟩ := by
  have spelled := @SpellsNumeral.parts false _ _ _ _ _ h .none .none
  simpa only [sign, Bool.false_eq_true, if_false, List.nil_append, List.append_nil] using spelled

/-- The value of a number, however long it is. -/
def Numeral.denoted (n : Numeral) : Json :=
  match n.places, n.exponent with
  | none, none => .integer (Decimal.integerOfChars (sign n.negative ++ n.whole))
  | places, exponent =>
    .float (Decimal.Binary64.ofDecimal n.negative (rowValue (n.whole ++ places.getD []))
      (exponent.getD 0 - (places.getD []).length))

/-- What may stand behind a number: nothing that could go on with it. -/
def Ends (rest : List Char) : Prop :=
  ∀ c ∈ rest.head?, c.isDigit = false ∧ c ≠ '.' ∧ c ≠ 'e' ∧ c ≠ 'E'

theorem span_digits {row rest : List Char} (digits : row.all Char.isDigit = true)
    (ends : ∀ c ∈ rest.head?, c.isDigit = false) :
    (row ++ rest).takeWhile Char.isDigit = row ∧ (row ++ rest).dropWhile Char.isDigit = rest := by
  have digit : ∀ c ∈ row, c.isDigit = true := List.all_eq_true.mp digits
  rw [List.takeWhile_append_of_pos digit, List.dropWhile_append_of_pos digit]
  cases rest with
  | nil => simp
  | cons c rest =>
    have other : ¬c.isDigit = true := by
      rw [ends c rfl]
      exact Bool.false_ne_true
    rw [List.takeWhile_cons_of_neg other, List.dropWhile_cons_of_neg other, List.append_nil]
    exact ⟨rfl, rfl⟩

theorem span_digits_of (cs : List Char) :
    cs = cs.takeWhile Char.isDigit ++ cs.dropWhile Char.isDigit ∧
      (cs.takeWhile Char.isDigit).all Char.isDigit = true :=
  ⟨List.takeWhile_append_dropWhile.symm, List.all_takeWhile⟩

theorem row_begins {row : List Char} (nonempty : row ≠ []) (digits : row.all Char.isDigit = true)
    (rest : List Char) : ∃ c tail, row ++ rest = c :: tail ∧ c.isDigit = true := by
  cases row with
  | nil => exact absurd rfl nonempty
  | cons c row => exact ⟨c, row ++ rest, rfl, List.all_eq_true.mp digits c List.mem_cons_self⟩

/-! ### The parts of a number are read as they are spelled -/

theorem scanExponent_plus {e : Char} (letter : e = 'e' ∨ e = 'E') (cs : List Char) :
    scanExponent (e :: '+' :: cs) =
      if (cs.takeWhile Char.isDigit).isEmpty then (none, e :: '+' :: cs)
      else (some (rowValue (cs.takeWhile Char.isDigit) : Int), cs.dropWhile Char.isDigit) :=
  if_pos letter

theorem scanExponent_minus {e : Char} (letter : e = 'e' ∨ e = 'E') (cs : List Char) :
    scanExponent (e :: '-' :: cs) =
      if (cs.takeWhile Char.isDigit).isEmpty then (none, e :: '-' :: cs)
      else (some (-(rowValue (cs.takeWhile Char.isDigit) : Int)), cs.dropWhile Char.isDigit) :=
  if_pos letter

theorem scanExponent_of_spells {power rest : List Char} {exponent : Option Int}
    (h : SpellsExponent power exponent) (ends : Ends rest) :
    scanExponent (power ++ rest) = (exponent, rest) := by
  have behind : ∀ c ∈ rest.head?, c.isDigit = false := fun c hc => (ends c hc).1
  cases h with
  | none =>
    cases rest with
    | nil => rfl
    | cons c rest =>
      have other := ends c rfl
      exact if_neg (not_or.mpr other.2.2)
  | @unsigned e row letter nonempty digits =>
    obtain ⟨taken, left⟩ := span_digits digits behind
    have unempty : row.isEmpty = false := List.isEmpty_eq_false_iff.mpr nonempty
    obtain ⟨c, tail, begins, digit⟩ := row_begins nonempty digits rest
    unfold scanExponent
    rw [List.cons_append]
    dsimp only
    rw [if_pos letter]
    split
    · next same => cases begins.symm.trans same; cases digit
    · next same => cases begins.symm.trans same; cases digit
    · rw [taken, left, unempty]
      rfl
  | @plus e row letter nonempty digits =>
    obtain ⟨taken, left⟩ := span_digits digits behind
    rw [List.cons_append, List.cons_append, scanExponent_plus letter, taken, left,
      if_neg (mt List.isEmpty_iff.mp nonempty)]
  | @minus e row letter nonempty digits =>
    obtain ⟨taken, left⟩ := span_digits digits behind
    rw [List.cons_append, List.cons_append, scanExponent_minus letter, taken, left,
      if_neg (mt List.isEmpty_iff.mp nonempty)]

theorem scanPlaces_point (cs : List Char) :
    scanPlaces ('.' :: cs) =
      if (cs.takeWhile Char.isDigit).isEmpty then (none, '.' :: cs)
      else (some (cs.takeWhile Char.isDigit), cs.dropWhile Char.isDigit) := rfl

theorem scanPlaces_of_spells {fraction rest : List Char} {places : Option (List Char)}
    (h : SpellsPlaces fraction places)
    (ends : ∀ c ∈ rest.head?, c.isDigit = false ∧ c ≠ '.') :
    scanPlaces (fraction ++ rest) = (places, rest) := by
  cases h with
  | none =>
    unfold scanPlaces
    split
    · next same =>
      have other := ends '.' (by rw [← List.nil_append rest, same]; rfl)
      exact absurd rfl other.2
    · rfl
  | @some row nonempty digits =>
    obtain ⟨taken, left⟩ := span_digits digits fun c hc => (ends c hc).1
    rw [List.cons_append, scanPlaces_point, taken, left, if_neg (mt List.isEmpty_iff.mp nonempty)]

theorem scanWhole?_of_spells {whole rest : List Char} (h : SpellsWhole whole)
    (ends : ∀ c ∈ rest.head?, c.isDigit = false) :
    scanWhole? (whole ++ rest) = some (whole, rest) := by
  cases h with
  | zero => rfl
  | @digits c row nonzero digits =>
    obtain ⟨taken, left⟩ := span_digits digits ends
    have digit : c.isDigit = true := List.all_eq_true.mp digits c List.mem_cons_self
    rw [List.cons_append] at taken left ⊢
    unfold scanWhole?
    split
    · next same => cases same; exact absurd rfl nonzero
    · next same =>
      cases same
      rw [if_pos digit, taken, left]
    · next same => cases same

theorem SpellsWhole.begins {whole : List Char} (h : SpellsWhole whole) (rest : List Char) :
    ∃ c tail, whole ++ rest = c :: tail ∧ c.isDigit = true := by
  cases h with
  | zero => exact ⟨'0', rest, rfl, rfl⟩
  | digits nonzero digits => exact row_begins (List.cons_ne_nil _ _) digits rest

theorem SpellsWhole.unsigned {whole : List Char} (h : SpellsWhole whole) (rest tail : List Char) :
    whole ++ rest ≠ '-' :: tail := by
  intro same
  obtain ⟨c, _, begins, digit⟩ := h.begins rest
  cases begins.symm.trans same
  cases digit

theorem SpellsExponent.ends {power rest : List Char} {exponent : Option Int}
    (h : SpellsExponent power exponent) (ends : Ends rest) :
    ∀ c ∈ (power ++ rest).head?, c.isDigit = false ∧ c ≠ '.' := by
  have letters {e : Char} (letter : e = 'e' ∨ e = 'E') : e.isDigit = false ∧ e ≠ '.' := by
    rcases letter with rfl | rfl <;> decide
  cases h with
  | none => exact fun c hc => ⟨(ends c hc).1, (ends c hc).2.1⟩
  | unsigned letter | plus letter | minus letter =>
    intro c hc
    cases hc
    exact letters letter

theorem SpellsPlaces.ends {fraction rest : List Char} {places : Option (List Char)}
    (h : SpellsPlaces fraction places)
    (ends : ∀ c ∈ rest.head?, c.isDigit = false ∧ c ≠ '.') :
    ∀ c ∈ (fraction ++ rest).head?, c.isDigit = false := by
  cases h with
  | none => exact fun c hc => (ends c hc).1
  | some =>
    intro c hc
    cases hc
    rfl

theorem scanNumeral?_sign {negative : Bool} {unsigned : List Char}
    (first : negative = false → ∀ tail, unsigned ≠ '-' :: tail) :
    scanNumeral? (sign negative ++ unsigned) =
      (scanWhole? unsigned).map fun (whole, behind) =>
        (⟨negative, whole, (scanPlaces behind).1, (scanExponent (scanPlaces behind).2).1⟩,
          (scanExponent (scanPlaces behind).2).2) := by
  cases negative with
  | true =>
    show (scanWhole? unsigned >>= _) = _
    cases scanWhole? unsigned <;> rfl
  | false =>
    have plain : sign false ++ unsigned = unsigned := rfl
    rw [plain]
    unfold scanNumeral?
    split
    next negative left signed =>
    split at signed
    · next tail => exact absurd rfl (first rfl tail)
    · cases signed
      cases scanWhole? unsigned <;> rfl

theorem scanNumeral?_of_spells {cs rest : List Char} {n : Numeral} (h : SpellsNumeral cs n)
    (ends : Ends rest) : scanNumeral? (cs ++ rest) = some (n, rest) := by
  cases h with
  | @parts negative whole fraction power places exponent wholes fractions powers =>
    have behind := powers.ends ends
    simp only [List.append_assoc]
    rw [scanNumeral?_sign fun _ => wholes.unsigned _,
      scanWhole?_of_spells wholes (fractions.ends behind)]
    simp only [Option.map_some, scanPlaces_of_spells fractions behind,
      scanExponent_of_spells powers ends]

/-! ### What is read as a part of a number is spelled so -/

theorem spells_of_scanExponent (cs : List Char) :
    ∃ power, cs = power ++ (scanExponent cs).2 ∧ SpellsExponent power (scanExponent cs).1 := by
  unfold scanExponent
  split
  · next e rest =>
    split_ifs with letter
    · split
      next negative unsigned signed =>
      obtain ⟨whole, digits⟩ := span_digits_of unsigned
      dsimp only
      split_ifs with empty negative
      · exact ⟨[], rfl, .none⟩
      · have nonempty : unsigned.takeWhile Char.isDigit ≠ [] := by simpa using empty
        split at signed
        · cases signed
          exact ⟨e :: '-' :: _, congrArg (e :: '-' :: ·) whole, .minus letter nonempty digits⟩
        · cases signed; cases negative
        · cases signed; cases negative
      · have nonempty : unsigned.takeWhile Char.isDigit ≠ [] := by simpa using empty
        split at signed
        · cases signed; exact absurd rfl negative
        · cases signed
          exact ⟨e :: '+' :: _, congrArg (e :: '+' :: ·) whole, .plus letter nonempty digits⟩
        · cases signed
          exact ⟨e :: _, congrArg (e :: ·) whole, .unsigned letter nonempty digits⟩
    · exact ⟨[], rfl, .none⟩
  · exact ⟨[], rfl, .none⟩

theorem spells_of_scanPlaces (cs : List Char) :
    ∃ fraction, cs = fraction ++ (scanPlaces cs).2 ∧ SpellsPlaces fraction (scanPlaces cs).1 := by
  unfold scanPlaces
  split
  · next rest =>
    obtain ⟨whole, digits⟩ := span_digits_of rest
    dsimp only
    split_ifs with empty
    · exact ⟨[], rfl, .none⟩
    · exact ⟨'.' :: _, congrArg ('.' :: ·) whole, .some (by simpa using empty) digits⟩
  · exact ⟨[], rfl, .none⟩

theorem spells_of_scanWhole? {cs whole rest : List Char}
    (h : scanWhole? cs = some (whole, rest)) : cs = whole ++ rest ∧ SpellsWhole whole := by
  unfold scanWhole? at h
  split at h
  · cases h
    exact ⟨rfl, .zero⟩
  · next c tail zero =>
    split_ifs at h with digit
    cases h
    obtain ⟨all, digits⟩ := span_digits_of (c :: tail)
    refine ⟨all, ?_⟩
    rw [List.takeWhile_cons_of_pos digit] at digits ⊢
    exact .digits zero digits
  · cases h

theorem exists_sign (cs : List Char) :
    ∃ negative unsigned, cs = sign negative ++ unsigned ∧
      (negative = false → ∀ tail, unsigned ≠ '-' :: tail) := by
  by_cases signed : ∃ tail, cs = '-' :: tail
  · obtain ⟨tail, rfl⟩ := signed
    exact ⟨true, tail, rfl, nofun⟩
  · exact ⟨false, cs, rfl, fun _ tail same => signed ⟨tail, same⟩⟩

theorem spells_of_scanNumeral? {cs rest : List Char} {n : Numeral}
    (h : scanNumeral? cs = some (n, rest)) : ∃ used, cs = used ++ rest ∧ SpellsNumeral used n := by
  obtain ⟨negative, unsigned, rfl, first⟩ := exists_sign cs
  rw [scanNumeral?_sign first] at h
  obtain ⟨⟨whole, behind⟩, scanned, parts⟩ := Option.map_eq_some_iff.mp h
  cases parts
  obtain ⟨rfl, wholes⟩ := spells_of_scanWhole? scanned
  obtain ⟨fraction, cut, fractions⟩ := spells_of_scanPlaces behind
  obtain ⟨power, cut', powers⟩ := spells_of_scanExponent (scanPlaces behind).2
  refine ⟨_, ?_, .parts wholes fractions powers⟩
  conv_lhs => rw [cut, cut']
  simp only [List.append_assoc]

/-! ## 3. What fits -/

/-- A value with room for so many arrays and objects inside of each other, and with integers that
are short enough to be read. -/
inductive Fits : Nat → Json → Prop
  | null {room : Nat} : Fits room .null
  | bool {room : Nat} {b : Bool} : Fits room (.bool b)
  | float {room : Nat} {x : Decimal.Binary64} : Fits room (.float x)
  | string {room : Nat} {s : String} : Fits room (.string s)
  | integer {room : Nat} {n : Int} (short : n.natAbs < 10 ^ Decimal.digitLimit) :
      Fits room (.integer n)
  | array {room : Nat} {items : List Json} (each : ∀ item ∈ items, Fits room item) :
      Fits (room + 1) (.array items)
  | object {room : Nat} {fields : List (String × Json)}
      (each : ∀ field ∈ fields, Fits room field.2) :
      Fits (room + 1) (.object fields)

theorem fits_integer_iff {room : Nat} {n : Int} :
    Fits room (.integer n) ↔ n.natAbs < 10 ^ Decimal.digitLimit := by
  constructor
  · rintro ⟨⟩
    assumption
  · exact .integer

theorem fits_array_iff {room : Nat} {items : List Json} :
    Fits (room + 1) (.array items) ↔ ∀ item ∈ items, Fits room item := by
  constructor
  · rintro ⟨⟩
    assumption
  · exact .array

theorem fits_object_iff {room : Nat} {fields : List (String × Json)} :
    Fits (room + 1) (.object fields) ↔ ∀ field ∈ fields, Fits room field.2 := by
  constructor
  · rintro ⟨⟩
    assumption
  · exact .object

def Fault.ofSize : Fault → Bool
  | .malformed _ _ => false
  | .numeral _ | .tooDeep _ => true

/-- What fits is read, and what does not is refused for its size. -/
structure Weighed {α : Type} (fits : Prop) (result : α) (outcome : Except Fault α) : Prop where
  read : fits → outcome = .ok result
  refused : ¬fits → ∃ fault, outcome = .error fault ∧ fault.ofSize = true

namespace Weighed

variable {α β : Type} {p q : Prop} {a : α} {b : β} {outcome : Except Fault α}

theorem of_read (h : p) : Weighed p a (.ok a) := ⟨fun _ => rfl, fun other => absurd h other⟩

theorem of_refused {fault : Fault} (h : ¬p) (size : fault.ofSize = true) :
    Weighed p a (.error fault) := ⟨fun fits => absurd fits h, fun _ => ⟨fault, rfl, size⟩⟩

theorem of_iff (same : p ↔ q) (h : Weighed p a outcome) : Weighed q a outcome :=
  ⟨fun fits => h.read (same.mpr fits), fun other => h.refused (mt same.mp other)⟩

theorem of_ok {other : α} (h : Weighed p a outcome) (read : outcome = .ok other) :
    p ∧ a = other := by
  by_cases fits : p
  · exact ⟨fits, Except.ok.inj ((h.read fits).symm.trans read)⟩
  · obtain ⟨fault, refused, -⟩ := h.refused fits
    cases refused.symm.trans read

theorem bind {next : α → Except Fault β} (h : Weighed p a outcome) (on : Weighed q b (next a)) :
    Weighed (p ∧ q) b (outcome >>= next) := by
  by_cases fits : p
  · rw [h.read fits]
    exact on.of_iff (by simp [fits])
  · obtain ⟨fault, refused, size⟩ := h.refused fits
    rw [refused]
    exact of_refused (fun both => fits both.1) size

theorem bind_ok {next : α → Except Fault β} (h : Weighed p a outcome) (on : next a = .ok b) :
    Weighed p b (outcome >>= next) := by
  have last : Weighed True b (next a) := by
    rw [on]
    exact of_read trivial
  exact (h.bind last).of_iff (Iff.of_eq (and_true p))

end Weighed

/-! ### Integers -/

theorem SpellsWhole.all_digits {whole : List Char} (h : SpellsWhole whole) :
    whole.all Char.isDigit = true := by
  cases h with
  | zero => rfl
  | digits _ digits => exact digits

theorem SpellsWhole.rowValue_lt_iff {whole : List Char} (h : SpellsWhole whole) {k : Nat}
    (positive : 0 < k) : rowValue whole < 10 ^ k ↔ whole.length ≤ k := by
  cases h with
  | zero =>
    have small : rowValue ['0'] < 10 ^ k := Nat.pow_pos (by decide)
    exact iff_of_true small positive
  | digits nonzero digits => exact Decimal.ofDigits_lt_iff digits nonzero

theorem SpellsWhole.natAbs_integerOfChars {whole : List Char} (h : SpellsWhole whole)
    (negative : Bool) :
    (Decimal.integerOfChars (sign negative ++ whole)).natAbs = rowValue whole := by
  cases negative with
  | true =>
    show (-(rowValue whole : Int)).natAbs = _
    rw [Int.natAbs_neg, Int.natAbs_natCast]
  | false =>
    show (Decimal.integerOfChars whole).natAbs = _
    unfold Decimal.integerOfChars
    split
    · next tail => exact absurd (List.append_nil _) (h.unsigned [] tail)
    · exact Int.natAbs_natCast _

theorem SpellsWhole.digitCount_eq {whole : List Char} (h : SpellsWhole whole) (negative : Bool) :
    Decimal.digitCount (sign negative ++ whole) = whole.length := by
  cases negative with
  | true => rfl
  | false =>
    show Decimal.digitCount whole = _
    unfold Decimal.digitCount
    split
    · next tail => exact absurd (List.append_nil _) (h.unsigned [] tail)
    · rfl

theorem weighed_value {cs : List Char} {n : Numeral} (h : SpellsNumeral cs n) (room : Nat) :
    Weighed (n.denoted.Fits room) n.denoted n.value := by
  cases h with
  | @parts negative whole fraction power places exponent wholes _ _ =>
    have signed : (if negative then '-' :: whole else whole) = sign negative ++ whole := by
      cases negative <;> rfl
    rcases places with _ | row
    · rcases exponent with _ | e
      · unfold Numeral.value Numeral.denoted
        dsimp only
        rw [signed, fits_integer_iff, wholes.natAbs_integerOfChars,
          wholes.rowValue_lt_iff (by decide), Decimal.readInteger, wholes.digitCount_eq]
        split_ifs with long
        · exact .of_refused (Nat.not_le_of_lt long) rfl
        · exact .of_read (Nat.le_of_not_lt long)
      · exact .of_read .float
    · cases exponent <;> exact .of_read .float

/-! ## 4. Strings -/

/-- The code units of a string up to its closing quote, and what is left behind it. -/
inductive SpellsUnits : List Char → List Nat → List Char → Prop
  | close {rest : List Char} : SpellsUnits ('"' :: rest) [] rest
  | plain {c : Char} {cs rest : List Char} {units : List Nat} (quote : c ≠ '"')
      (slash : c ≠ '\\') (control : 0x20 ≤ c.toNat) (more : SpellsUnits cs units rest) :
      SpellsUnits (c :: cs) (c.toNat :: units) rest
  | short {c d : Char} {cs rest : List Char} {units : List Nat} (escape : shortEscape? c = some d)
      (more : SpellsUnits cs units rest) : SpellsUnits ('\\' :: c :: cs) (d.toNat :: units) rest
  | code {a b c d : Char} {cs rest : List Char} {unit : Nat} {units : List Nat}
      (hex : codeUnit? a b c d = some unit) (more : SpellsUnits cs units rest) :
      SpellsUnits ('\\' :: 'u' :: a :: b :: c :: d :: cs) (unit :: units) rest

theorem SpellsUnits.suffix {cs rest : List Char} {units : List Nat}
    (h : SpellsUnits cs units rest) : rest <:+ cs := by
  induction h with
  | close => exact List.suffix_cons _ _
  | plain _ _ _ _ ih => exact ih.trans (List.suffix_cons _ _)
  | short _ _ ih => exact ih.trans ⟨['\\', _], rfl⟩
  | code _ _ ih => exact ih.trans ⟨['\\', 'u', _, _, _, _], rfl⟩

theorem scanString_of_spells {cs rest : List Char} {units : List Nat}
    (h : SpellsUnits cs units rest) (opening : List Char) (done : List Nat) :
    scanString opening cs done = .ok (done.reverse ++ units, rest) := by
  induction h generalizing done with
  | close =>
    rw [scanString, List.append_nil]
  | @plain c cs rest units quote slash control _ ih =>
    rw [scanString, if_neg (Nat.not_lt_of_le control), ih, List.reverse_cons, List.append_assoc]
    · rfl
    · exact fun same => quote same
    · exact fun same => slash same
  | @short c d cs rest units escape _ ih =>
    have letter : c ≠ 'u' := by
      rintro rfl
      cases escape
    rw [scanString, escape]
    · dsimp only
      rw [ih, List.reverse_cons, List.append_assoc]
      rfl
    · rintro _ _ _ _ _ _ rfl
      exact absurd rfl letter
    · exact letter
  | @code a b c d cs rest unit units hex more ih =>
    obtain ⟨next, tail, rfl⟩ : ∃ next tail, cs = next :: tail := by
      cases more with
      | _ => exact ⟨_, _, rfl⟩
    rw [scanString, hex]
    dsimp only
    rw [ih, List.reverse_cons, List.append_assoc]
    rfl

theorem spells_of_scanString {opening cs rest : List Char} {done units : List Nat}
    (h : scanString opening cs done = .ok (units, rest)) :
    ∃ new, units = done.reverse ++ new ∧ SpellsUnits cs new rest := by
  fun_induction scanString opening cs done with
  | case2 done behind =>
    cases h
    exact ⟨[], (List.append_nil _).symm, .close⟩
  | case4 done a b c d next behind unit hex ih =>
    obtain ⟨new, rfl, more⟩ := ih h
    exact ⟨unit :: new, by simp, .code hex more⟩
  | case7 done c behind _ _ escaped escape ih =>
    obtain ⟨new, rfl, more⟩ := ih h
    exact ⟨escaped.toNat :: new, by simp, .short escape more⟩
  | case10 c behind done quote slash control ih =>
    obtain ⟨new, rfl, more⟩ := ih h
    exact ⟨c.toNat :: new, by simp, .plain quote slash (Nat.le_of_not_lt control) more⟩
  | _ => cases h

/-! ## 5. Line ends -/

theorem SpellsNumeral.return_not_mem {cs : List Char} {n : Numeral} (h : SpellsNumeral cs n) :
    '\r' ∉ cs := by
  have undigited {row : List Char} (digits : row.all Char.isDigit = true) : '\r' ∉ row := by
    intro feed
    cases List.all_eq_true.mp digits '\r' feed
  have letters {e : Char} (letter : e = 'e' ∨ e = 'E') : '\r' ≠ e := by
    rcases letter with rfl | rfl <;> decide
  cases h with
  | @parts negative whole fraction power places exponent wholes fractions powers =>
    have signs : '\r' ∉ sign negative := by cases negative <;> decide
    have inPlaces : '\r' ∉ fraction := by
      cases fractions with
      | none => exact List.not_mem_nil
      | some _ digits => simp [undigited digits]
    have inExponent : '\r' ∉ power := by
      cases powers with
      | none => exact List.not_mem_nil
      | unsigned letter _ digits | plus letter _ digits | minus letter _ digits =>
        simp [letters letter, undigited digits]
    simp [signs, undigited wholes.all_digits, inPlaces, inExponent]

theorem ne_return_of_codeUnit? {a b c d : Char} {unit : Nat}
    (h : codeUnit? a b c d = some unit) : a ≠ '\r' ∧ b ≠ '\r' ∧ c ≠ '\r' ∧ d ≠ '\r' := by
  have other {e : Char} {n : Nat} (hex : hexValue? e = some n) : e ≠ '\r' := by
    rintro rfl
    cases hex
  obtain ⟨_, first, h⟩ := Option.bind_eq_some_iff.mp h
  obtain ⟨_, second, h⟩ := Option.bind_eq_some_iff.mp h
  obtain ⟨_, third, h⟩ := Option.bind_eq_some_iff.mp h
  obtain ⟨_, fourth, -⟩ := Option.bind_eq_some_iff.mp h
  exact ⟨other first, other second, other third, other fourth⟩

-- A string holds no line end as it is: that would be a control character.
theorem SpellsUnits.unifyNewlines {cs rest : List Char} {units : List Nat}
    (h : SpellsUnits cs units rest) :
    SpellsUnits (Text.unifyNewlines cs) units (Text.unifyNewlines rest) := by
  induction h with
  | close => simpa using SpellsUnits.close
  | @plain c cs rest units quote slash control more ih =>
    have other : c ≠ '\r' := by
      rintro rfl
      exact absurd control (by decide)
    simpa [other] using SpellsUnits.plain quote slash control ih
  | @short c d cs rest units escape more ih =>
    have other : c ≠ '\r' := by
      rintro rfl
      cases escape
    simpa [other] using SpellsUnits.short escape ih
  | @code a b c d cs rest unit units hex more ih =>
    obtain ⟨first, second, third, fourth⟩ := ne_return_of_codeUnit? hex
    simpa [first, second, third, fourth] using SpellsUnits.code hex ih

end Toolsmith.Json
