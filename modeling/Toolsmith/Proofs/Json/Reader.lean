import Mathlib.Data.List.Infix
import Toolsmith.Proofs.Json.Tokens
/-!
# What the reader makes of a text

Each part of the reader is given a text and leaves a part of it behind, or it stops.  That it stops
is put down to the text (`Accounted`): at a break of the grammar, at a row of digits that is too
long, or at more arrays and objects than may nest.  A break of the grammar is the only fault of a
text in which every row of digits is short and few brackets open (`exists_malformed_of_read`).
-/

namespace Toolsmith.Json

/-! ## 1. Outcomes and the text that they are put down to -/

def isOpening (c : Char) : Bool := c == '[' || c == '{'

/-- A fault of a numeral that a text accounts for: it holds a row of digits that is too long. -/
def Overlong (cs : List Char) (fault : Decimal.NumeralFault) : Prop :=
  ∃ row, row <:+: cs ∧ row.all Char.isDigit = true ∧ Decimal.digitLimit < row.length ∧
    fault = .tooLong row.length

/-- What comes of reading a text inside of `depth` arrays and objects: a part of it is left, or it
accounts for the fault. -/
def Accounted {α : Type} (depth : Nat) (cs : List Char) : Except Fault (α × List Char) → Prop
  | .ok (_, rest) => rest <:+ cs
  | .error (.malformed _ _) => True
  | .error (.numeral fault) => Overlong cs fault
  | .error (.tooDeep _) => depthLimit < depth + cs.countP isOpening

section

variable {α β : Type} {depth : Nat} {cs : List Char}

theorem accounted_complain (complaint : Complaint) (rest : List Char) :
    Accounted depth cs (complain complaint rest : Except Fault (α × List Char)) := trivial

theorem Accounted.of_suffix {inner : List Char} {outcome : Except Fault (α × List Char)}
    (h : Accounted depth inner outcome) (within : inner <:+ cs) : Accounted depth cs outcome := by
  match outcome, h with
  | .ok (_, rest), h => exact h.trans within
  | .error (.malformed _ _), _ => trivial
  | .error (.numeral fault), ⟨row, part, digits, long, value⟩ =>
    exact ⟨row, part.trans within.isInfix, digits, long, value⟩
  | .error (.tooDeep _), h =>
    have opened : inner.countP isOpening ≤ cs.countP isOpening := within.sublist.countP_le
    unfold Accounted at h ⊢
    omega

/-- One array or object more around a text is accounted for by the bracket in front of it. -/
theorem Accounted.of_deeper {c : Char} {outcome : Except Fault (α × List Char)}
    (h : Accounted (depth + 1) cs outcome) (opening : isOpening c = true) :
    Accounted depth (c :: cs) outcome := by
  match outcome, h with
  | .ok (_, rest), h => exact List.IsSuffix.trans h (List.suffix_cons c cs)
  | .error (.malformed _ _), _ => trivial
  | .error (.numeral fault), ⟨row, part, digits, long, value⟩ =>
    exact ⟨row, part.trans (List.suffix_cons c cs).isInfix, digits, long, value⟩
  | .error (.tooDeep _), h =>
    unfold Accounted at h ⊢
    rw [List.countP_cons_of_pos opening]
    omega

theorem Accounted.bind {outcome : Except Fault (α × List Char)}
    {next : α × List Char → Except Fault (β × List Char)} (h : Accounted depth cs outcome)
    (on : ∀ a rest, rest <:+ cs → Accounted depth cs (next (a, rest))) :
    Accounted depth cs (outcome >>= next) := by
  match outcome, h with
  | .ok (a, rest), h => exact on a rest h
  | .error (.malformed _ _), _ => trivial
  | .error (.numeral fault), h => exact h
  | .error (.tooDeep _), h => exact h

end

/-! ## 2. Strings, words and numbers -/

theorem skipSpace_suffix (cs : List Char) : skipSpace cs <:+ cs := List.dropWhile_suffix _

theorem suffix_of_skipSpace {c : Char} {cs rest left : List Char} (within : rest <:+ cs)
    (next : skipSpace rest = c :: left) : left <:+ cs := by
  have spaced := (skipSpace_suffix rest).trans within
  rw [next] at spaced
  exact (List.suffix_cons c left).trans spaced

theorem accounted_scanString (depth : Nat) (opening cs : List Char) (done : List Nat) :
    Accounted depth cs (scanString opening cs done) := by
  fun_induction scanString opening cs done with
  | case2 done rest => exact List.suffix_cons _ _
  | case4 done a b c d next rest unit _ ih => exact ih.of_suffix ⟨['\\', 'u', a, b, c, d], rfl⟩
  | case7 done c rest _ _ escaped _ ih => exact ih.of_suffix ⟨['\\', c], rfl⟩
  | case10 c rest done _ _ _ ih => exact ih.of_suffix (List.suffix_cons _ _)
  | _ => exact accounted_complain _ _

theorem accounted_readString (lone : Text.StandIns) (depth : Nat) (cs : List Char) :
    Accounted depth cs (readString lone cs) := by
  refine ((accounted_scanString depth cs cs.tail []).of_suffix (List.tail_suffix cs)).bind ?_
  exact fun _ _ within => within

theorem suffix_of_readWord? {cs rest : List Char} {value : Json}
    (h : readWord? cs = some (value, rest)) : rest <:+ cs := by
  obtain ⟨word, _, found⟩ := List.exists_of_findSome?_eq_some h
  split_ifs at found
  cases found
  exact List.drop_suffix _ _

/-- An integer that is spelled and not read has a row of digits that is too long. -/
theorem SpellsNumeral.overlong {cs used : List Char} {n : Numeral} {fault : Fault}
    (h : SpellsNumeral used n) (part : used <:+: cs) (failed : n.value = .error fault) :
    ∃ overlong, fault = .numeral overlong ∧ Overlong cs overlong := by
  cases h with
  | @parts negative whole fraction power places exponent wholes _ _ =>
    have signed : (if negative then '-' :: whole else whole) = sign negative ++ whole := by
      cases negative <;> rfl
    have within : whole <:+: sign negative ++ whole ++ fraction ++ power :=
      ⟨sign negative, fraction ++ power, by simp only [List.append_assoc]⟩
    unfold Numeral.value at failed
    dsimp only at failed
    split at failed
    · rw [signed, Decimal.readInteger, wholes.digitCount_eq] at failed
      split_ifs at failed with long
      cases failed
      exact ⟨_, rfl, whole, within.trans part, wholes.all_digits, long, rfl⟩
    · cases failed

/-! ## 3. Values -/

section

variable {lone : Text.StandIns} {fuel : Nat}

theorem accounted_atom (depth : Nat) (cs : List Char) :
    Accounted depth cs
      (match readWord? cs with
      | some found => .ok found
      | none =>
        match scanNumeral? cs with
        | some (numeral, rest) => do
          let value ← numeral.value
          return (value, rest)
        | none => complain .expectingValue cs) := by
  split
  · next found word => exact suffix_of_readWord? word
  · split
    · next numeral rest scanned =>
      obtain ⟨used, rfl, spelled⟩ := spells_of_scanNumeral? scanned
      cases value : numeral.value with
      | ok value => exact List.suffix_append _ _
      | error fault =>
        obtain ⟨overlong, rfl, accounted⟩ :=
          spelled.overlong (List.prefix_append _ _).isInfix value
        exact accounted
    · exact accounted_complain _ _

-- One step of each of the three readers, with what they do with less fuel as hypotheses.

theorem accounted_tooDeep {depth : Nat} {c : Char} (deep : depthLimit ≤ depth)
    (opening : isOpening c = true) (isArray : Bool) (cs : List Char) :
    Accounted (α := Json) depth (c :: cs) (.error (.tooDeep isArray)) := by
  unfold Accounted
  rw [List.countP_cons_of_pos opening]
  omega

theorem accounted_readValue
    (items : ∀ depth cs done, Accounted depth cs (readItems lone fuel depth cs done))
    (fields : ∀ depth cs done, Accounted depth cs (readFields lone fuel depth cs done))
    (depth : Nat) (cs : List Char) :
    Accounted depth cs (readValue lone (fuel + 1) depth cs) := by
  rw [readValue.eq_def]
  dsimp only
  split
  · exact (accounted_readString lone depth _).bind fun _ _ within => within
  · next rest =>
    split_ifs with deep
    · exact accounted_tooDeep deep (by decide) false rest
    · split
      · next closed => exact suffix_of_skipSpace (List.suffix_cons _ _) closed
      · refine Accounted.bind ?_ fun _ _ within => within
        exact ((fields _ _ _).of_suffix (skipSpace_suffix rest)).of_deeper (by decide)
  · next rest =>
    split_ifs with deep
    · exact accounted_tooDeep deep (by decide) true rest
    · split
      · next closed => exact suffix_of_skipSpace (List.suffix_cons _ _) closed
      · refine Accounted.bind ?_ fun _ _ within => within
        exact ((items _ _ _).of_suffix (skipSpace_suffix rest)).of_deeper (by decide)
  · exact accounted_atom depth cs

theorem accounted_readItems
    (value : ∀ depth cs, Accounted depth cs (readValue lone fuel depth cs))
    (items : ∀ depth cs done, Accounted depth cs (readItems lone fuel depth cs done))
    (depth : Nat) (cs : List Char) (done : List Json) :
    Accounted depth cs (readItems lone (fuel + 1) depth cs done) := by
  rw [readItems]
  refine (value depth cs).bind fun item rest within => ?_
  dsimp only
  split
  · next closed => exact suffix_of_skipSpace within closed
  · next left comma =>
    exact (items _ _ _).of_suffix
      ((skipSpace_suffix left).trans (suffix_of_skipSpace within comma))
  · exact accounted_complain _ _

theorem accounted_readFields
    (value : ∀ depth cs, Accounted depth cs (readValue lone fuel depth cs))
    (fields : ∀ depth cs done, Accounted depth cs (readFields lone fuel depth cs done))
    (depth : Nat) (cs : List Char) (done : List (String × Json)) :
    Accounted depth cs (readFields lone (fuel + 1) depth cs done) := by
  rw [readFields.eq_def]
  dsimp only
  split
  · refine (accounted_readString lone depth _).bind fun name rest within => ?_
    dsimp only
    split
    · next behind colon =>
      have later := (skipSpace_suffix behind).trans (suffix_of_skipSpace within colon)
      refine ((value depth _).of_suffix later).bind fun item rest within => ?_
      dsimp only
      split
      · next closed => exact suffix_of_skipSpace within closed
      · next left comma =>
        exact (fields _ _ _).of_suffix
          ((skipSpace_suffix left).trans (suffix_of_skipSpace within comma))
      · exact accounted_complain _ _
    · exact accounted_complain _ _
  · exact accounted_complain _ _

theorem accounted_readers (lone : Text.StandIns) (fuel : Nat) :
    (∀ depth cs, Accounted depth cs (readValue lone fuel depth cs)) ∧
      (∀ depth cs done, Accounted depth cs (readItems lone fuel depth cs done)) ∧
      ∀ depth cs done, Accounted depth cs (readFields lone fuel depth cs done) := by
  induction fuel with
  | zero =>
    refine ⟨fun depth cs => ?_, fun depth cs done => ?_, fun depth cs done => ?_⟩
    · rw [readValue]
      exact accounted_complain _ _
    · rw [readItems]
      exact accounted_complain _ _
    · rw [readFields]
      exact accounted_complain _ _
  | succ fuel ih =>
    obtain ⟨value, items, fields⟩ := ih
    exact ⟨accounted_readValue items fields, accounted_readItems value items,
      accounted_readFields value fields⟩

end

/-! ## 4. Whole texts -/

theorem accounted_of_read {cs : List Char} {lone : Text.StandIns} {fault : Fault}
    (h : read cs lone = .error fault) : Accounted (α := Json) 0 cs (.error fault) := by
  unfold read at h
  split at h
  · cases h
    trivial
  · have value := ((accounted_readers lone (2 * cs.length + 2)).1 0 (skipSpace cs)).of_suffix
      (skipSpace_suffix cs)
    cases outcome : readValue lone (2 * cs.length + 2) 0 (skipSpace cs) with
    | error first =>
      rw [outcome] at h value
      cases h
      exact value
    | ok found =>
      rw [outcome] at h
      dsimp only [bind, Except.bind] at h
      split at h
      · cases h
      · cases h
        trivial

/-- A text whose rows of digits are all short enough to be read as one numeral, and that opens no
more arrays and objects than may nest. -/
structure Modest (cs : List Char) : Prop where
  digits : ∀ row, row <:+: cs → row.all Char.isDigit = true → row.length ≤ Decimal.digitLimit
  brackets : cs.countP isOpening ≤ depthLimit

theorem modest_of_length {cs : List Char} (short : cs.length ≤ depthLimit) : Modest cs := by
  constructor
  · intro row part _
    exact (part.length_le.trans short).trans (by decide)
  · exact List.countP_le_length.trans short

theorem exists_malformed_of_read {cs : List Char} {lone : Text.StandIns} {fault : Fault}
    (modest : Modest cs) (h : read cs lone = .error fault) :
    ∃ complaint left, fault = .malformed complaint left := by
  match fault, accounted_of_read h with
  | .malformed complaint left, _ => exact ⟨complaint, left, rfl⟩
  | .numeral _, ⟨row, part, digits, long, _⟩ =>
    have := modest.digits row part digits
    omega
  | .tooDeep _, deep =>
    have := modest.brackets
    unfold Accounted at deep
    omega

end Toolsmith.Json
