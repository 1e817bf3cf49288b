import Toolsmith.Proofs.Json.Tokens
import Toolsmith.Proofs.Stepwise
/-!
# The grammar of JSON texts

What a text denotes is said by a grammar that knows neither fuel nor limits (`Denotes`).  The reader
keeps to it: a document that a text denotes is read if it fits, that is if its integers are short
and it does not nest too deep, and is refused for its size if not (`Denotes.read_eq`), and nothing
else is read (`read_eq_ok_iff`).  It does not matter how the lines of a text end
(`Denotes.unifyNewlines`).
-/

namespace Toolsmith.Json

/-! ## 1. Phrases -/

/-- What a part of a text can spell: a value, or the items of an array or the fields of an object
with the bracket that closes them. -/
inductive Phrase
  | value (v : Json)
  | items (items : List Json)
  | fields (fields : List (String × Json))

/-- A name with its colon, and what is left behind them. -/
inductive SpellsName (lone : Text.StandIns) : List Char → String → List Char → Prop
  | name {cs inner colon after rest : List Char} {units : List Nat}
      (before : Spaced cs ('"' :: inner)) (chars : SpellsUnits inner units colon)
      (between : Spaced colon (':' :: after)) (behind : Spaced after rest) :
      SpellsName lone cs (String.ofList (joinUnits lone units)) rest

/-- What a text spells at its beginning, and what is left behind that. -/
inductive Spells (lone : Text.StandIns) : List Char → Phrase → List Char → Prop
  | word {word : String} {v : Json} {rest : List Char} (known : (word, v) ∈ words) :
      Spells lone (word.toList ++ rest) (.value v) rest
  | number {cs rest : List Char} {n : Numeral} (numeral : SpellsNumeral cs n) :
      Spells lone (cs ++ rest) (.value n.denoted) rest
  | string {cs rest : List Char} {units : List Nat} (chars : SpellsUnits cs units rest) :
      Spells lone ('"' :: cs) (.value (.string (String.ofList (joinUnits lone units)))) rest
  | noItems {cs rest : List Char} (close : Spaced cs (']' :: rest)) :
      Spells lone ('[' :: cs) (.value (.array [])) rest
  | array {cs rest : List Char} {items : List Json} (each : Spells lone cs (.items items) rest) :
      Spells lone ('[' :: cs) (.value (.array items)) rest
  | noFields {cs rest : List Char} (close : Spaced cs ('}' :: rest)) :
      Spells lone ('{' :: cs) (.value (.object [])) rest
  | object {cs rest : List Char} {fields : List (String × Json)}
      (each : Spells lone cs (.fields fields) rest) :
      Spells lone ('{' :: cs) (.value (.object fields)) rest
  | lastItem {cs inner behind rest : List Char} {v : Json} (before : Spaced cs inner)
      (item : Spells lone inner (.value v) behind) (close : Spaced behind (']' :: rest)) :
      Spells lone cs (.items [v]) rest
  | nextItem {cs inner behind more rest : List Char} {v : Json} {items : List Json}
      (before : Spaced cs inner) (item : Spells lone inner (.value v) behind)
      (comma : Spaced behind (',' :: more)) (others : Spells lone more (.items items) rest) :
      Spells lone cs (.items (v :: items)) rest
  | lastField {cs inner behind rest : List Char} {name : String} {v : Json}
      (named : SpellsName lone cs name inner) (value : Spells lone inner (.value v) behind)
      (close : Spaced behind ('}' :: rest)) : Spells lone cs (.fields [(name, v)]) rest
  | nextField {cs inner behind more rest : List Char} {name : String} {v : Json}
      {fields : List (String × Json)} (named : SpellsName lone cs name inner)
      (value : Spells lone inner (.value v) behind) (comma : Spaced behind (',' :: more))
      (others : Spells lone more (.fields fields) rest) :
      Spells lone cs (.fields ((name, v) :: fields)) rest

/-- A whole text denotes a document: the document with blanks around it, if any. -/
def Denotes (lone : Text.StandIns) (cs : List Char) (document : Json) : Prop :=
  ∃ inner left, Spaced cs inner ∧ Spells lone inner (.value document) left ∧ Spaced left []

variable {lone : Text.StandIns}

theorem SpellsName.length_lt {cs rest : List Char} {name : String}
    (h : SpellsName lone cs name rest) : rest.length < cs.length := by
  obtain ⟨before, chars, between, behind⟩ := h
  have := before.suffix.length_le
  have := chars.suffix.length_le
  have := between.suffix.length_le
  have := behind.suffix.length_le
  simp only [List.length_cons] at *
  omega

theorem Spells.length_le {cs rest : List Char} {phrase : Phrase} (h : Spells lone cs phrase rest) :
    rest.length ≤ cs.length := by
  induction h with
  | word | number => simp
  | string chars => exact chars.suffix.length_le.trans (Nat.le_succ _)
  | noItems close | noFields close =>
    have := close.suffix.length_le
    simp only [List.length_cons] at *
    omega
  | array _ ih | object _ ih => exact ih.trans (Nat.le_succ _)
  | lastItem before _ close ih =>
    have := before.suffix.length_le
    have := close.suffix.length_le
    simp only [List.length_cons] at *
    omega
  | nextItem before _ comma _ ih ih' =>
    have := before.suffix.length_le
    have := comma.suffix.length_le
    simp only [List.length_cons] at *
    omega
  | lastField named _ close ih =>
    have := named.length_lt
    have := close.suffix.length_le
    simp only [List.length_cons] at *
    omega
  | nextField named _ comma _ ih ih' =>
    have := named.length_lt
    have := comma.suffix.length_le
    simp only [List.length_cons] at *
    omega

/-! ## 2. Words and numbers -/

def readAtom (cs : List Char) : Except Fault (Json × List Char) :=
  match readWord? cs with
  | some found => .ok found
  | none =>
    match scanNumeral? cs with
    | some (numeral, rest) => do
      let value ← numeral.value
      return (value, rest)
    | none => complain .expectingValue cs

-- A value does not begin with a blank, the end of an array, or a byte order mark.
def isStart (c : Char) : Bool := !isSpace c && c != ']' && c != '\ufeff'

def isAtomStart (c : Char) : Bool := isStart c && c != '"' && c != '{' && c != '['

theorem readValue_atom {c : Char} (start : isAtomStart c = true) (fuel depth : Nat)
    (cs : List Char) : readValue lone (fuel + 1) depth (c :: cs) = readAtom (c :: cs) := by
  rw [readValue.eq_def]
  dsimp only
  split
  · next same => cases same; cases start
  · next same => cases same; cases start
  · next same => cases same; cases start
  · rfl

theorem isAtomStart_of_isDigit {c : Char} (digit : c.isDigit = true) : isAtomStart c = true := by
  have other (d : Char) (h : d.isDigit = false) : c ≠ d := by
    rintro rfl
    cases digit.symm.trans h
  simp [isAtomStart, isStart, isSpace, other ' ' rfl, other '\t' rfl, other '\n' rfl,
    other '\r' rfl, other ']' rfl, other '\ufeff' rfl, other '"' rfl, other '{' rfl, other '[' rfl]

theorem readWord?_of_mem {word : String} {v : Json} (known : (word, v) ∈ words)
    (rest : List Char) :
    (∃ c tail, word.toList ++ rest = c :: tail ∧ isAtomStart c = true) ∧
      readWord? (word.toList ++ rest) = some (v, rest) := by
  simp only [words, List.mem_cons, List.not_mem_nil, or_false, Prod.mk.injEq] at known
  rcases known with ⟨rfl, rfl⟩ | ⟨rfl, rfl⟩ | ⟨rfl, rfl⟩ | ⟨rfl, rfl⟩ | ⟨rfl, rfl⟩ | ⟨rfl, rfl⟩ <;>
    exact ⟨⟨_, _, rfl, rfl⟩, rfl⟩

theorem spells_of_readWord? {cs rest : List Char} {v : Json} (h : readWord? cs = some (v, rest)) :
    Spells lone cs (.value v) rest := by
  obtain ⟨⟨word, v⟩, known, found⟩ := List.exists_of_findSome?_eq_some h
  split_ifs at found with front
  cases found
  obtain ⟨rest, rfl⟩ := List.isPrefixOf_iff_prefix.mp front
  rw [List.drop_left]
  exact .word known

-- The first two characters of every word are no digits, so that a number begins no word.
theorem words_undigited : ∀ word ∈ words, 2 ≤ word.1.toList.length ∧
    (word.1.toList.take 2).all (fun c => !c.isDigit) = true := by decide

theorem readWord?_of_isDigit {c : Char} (digit : c.isDigit = true) (negative : Bool)
    (cs : List Char) : readWord? (sign negative ++ c :: cs) = none := by
  refine List.findSome?_eq_none_iff.mpr fun word known => if_neg ?_
  obtain ⟨long, undigited⟩ := words_undigited word known
  have other {d : Char} (h : d.isDigit = false) : d ≠ c := by
    rintro rfl
    cases digit.symm.trans h
  match spelt : word.1.toList, long with
  | x :: y :: tail, _ =>
    rw [spelt] at undigited
    simp at undigited
    cases negative with
    | true => simp [sign, List.isPrefixOf, other undigited.2]
    | false => simp [sign, List.isPrefixOf, other undigited.1]

theorem SpellsNumeral.begins {cs : List Char} {n : Numeral} (h : SpellsNumeral cs n)
    (rest : List Char) :
    ∃ negative c tail, cs ++ rest = sign negative ++ c :: tail ∧ c.isDigit = true := by
  cases h with
  | @parts negative whole fraction power places exponent wholes _ _ =>
    obtain ⟨c, tail, begins, digit⟩ := wholes.begins (fraction ++ (power ++ rest))
    refine ⟨negative, c, tail, ?_, digit⟩
    rw [← begins]
    simp only [List.append_assoc]

theorem atom_of_spellsNumeral {cs : List Char} {n : Numeral} (h : SpellsNumeral cs n)
    (rest : List Char) : ∃ c tail, cs ++ rest = c :: tail ∧ isAtomStart c = true := by
  obtain ⟨negative, c, tail, begins, digit⟩ := h.begins rest
  rw [begins]
  cases negative with
  | true => exact ⟨'-', c :: tail, rfl, rfl⟩
  | false => exact ⟨c, tail, rfl, isAtomStart_of_isDigit digit⟩

theorem weighed_number {cs rest : List Char} {n : Numeral} (h : SpellsNumeral cs n)
    (ends : Ends rest) (room : Nat) :
    Weighed (n.denoted.Fits room) (n.denoted, rest) (readAtom (cs ++ rest)) := by
  obtain ⟨negative, c, tail, begins, digit⟩ := h.begins rest
  have wordless : readWord? (cs ++ rest) = none := by
    rw [begins]
    exact readWord?_of_isDigit digit negative tail
  unfold readAtom
  rw [wordless, scanNumeral?_of_spells h ends]
  exact (weighed_value h room).bind_ok rfl

theorem spells_of_readAtom {cs rest : List Char} {v : Json} (h : readAtom cs = .ok (v, rest)) :
    Spells lone cs (.value v) rest := by
  unfold readAtom at h
  split at h
  · next found word =>
    cases h
    exact spells_of_readWord? word
  · split at h
    · next numeral behind scanned =>
      obtain ⟨value, valued, h⟩ := bind_eq_ok_iff.mp h
      cases h
      obtain ⟨used, rfl, spelled⟩ := spells_of_scanNumeral? scanned
      obtain ⟨fits, rfl⟩ := (weighed_value spelled 0).of_ok valued
      exact .number spelled
    · cases h

/-! ## 3. What is spelled is read -/

/-- A phrase that a text spells is read if it fits, with fuel for the length of the text. -/
def Phrase.ReadAs (lone : Text.StandIns) (cs rest : List Char) : Phrase → Prop
  | .value v => ∀ (fuel depth room : Nat), depth + room = depthLimit → 2 * cs.length + 1 ≤ fuel →
      Ends rest → Weighed (v.Fits room) (v, rest) (readValue lone fuel depth cs)
  | .items values => ∀ (fuel depth room : Nat) (done : List Json), depth + room = depthLimit →
      2 * cs.length + 2 ≤ fuel →
      Weighed (∀ item ∈ values, item.Fits room) (done.reverse ++ values, rest)
        (readItems lone fuel depth (skipSpace cs) done)
  | .fields entries => ∀ (fuel depth room : Nat) (done : List (String × Json)),
      depth + room = depthLimit → 2 * cs.length + 2 ≤ fuel →
      Weighed (∀ field ∈ entries, field.2.Fits room) (done.reverse ++ entries, rest)
        (readFields lone fuel depth (skipSpace cs) done)

theorem Spells.start {cs rest : List Char} {v : Json} (h : Spells lone cs (.value v) rest) :
    ∃ c tail, cs = c :: tail ∧ isStart c = true := by
  have atom {cs : List Char} (h : ∃ c tail, cs = c :: tail ∧ isAtomStart c = true) :
      ∃ c tail, cs = c :: tail ∧ isStart c = true := by
    obtain ⟨c, tail, rfl, start⟩ := h
    refine ⟨c, tail, rfl, ?_⟩
    simp only [isAtomStart, Bool.and_eq_true] at start
    exact start.1.1.1
  cases h with
  | word known => exact atom (readWord?_of_mem known rest).1
  | number numeral => exact atom (atom_of_spellsNumeral numeral rest)
  | string | noItems | array | noFields | object => exact ⟨_, _, rfl, rfl⟩

theorem Spaced.skipSpace_of_not {c : Char} {cs rest : List Char} (h : Spaced cs (c :: rest))
    (other : isSpace c = false) : skipSpace cs = c :: rest := by
  rw [h.skipSpace_eq, skipSpace_cons_of_not other]

theorem Spells.skipSpace_of_spaced {cs inner rest : List Char} {v : Json}
    (h : Spells lone inner (.value v) rest) (before : Spaced cs inner) : skipSpace cs = inner := by
  obtain ⟨c, tail, rfl, start⟩ := h.start
  simp only [isStart, Bool.and_eq_true, Bool.not_eq_true'] at start
  exact before.skipSpace_of_not start.1.1

-- Only blanks and what may stand behind them follow a value.
theorem ends_of_spaced {cs rest : List Char} (h : Spaced cs rest) (ends : Ends rest) :
    Ends cs := by
  cases h with
  | refl => exact ends
  | cons space more =>
    intro c hc
    cases hc
    simp only [isSpace, Bool.or_eq_true, beq_iff_eq] at space
    rcases space with ((rfl | rfl) | rfl) | rfl <;> decide

theorem ends_cons {c : Char} (h : c ∈ [',', ']', '}']) (rest : List Char) : Ends (c :: rest) := by
  intro d hd
  cases hd
  revert h
  revert c
  decide

theorem readAs_word {word : String} {v : Json} (known : (word, v) ∈ words) (rest : List Char) :
    (Phrase.value v).ReadAs lone (word.toList ++ rest) rest := by
  rintro (_ | fuel) depth room _ enough _
  · omega
  · obtain ⟨⟨c, tail, begins, start⟩, found⟩ := readWord?_of_mem known rest
    have fits : v.Fits room := by
      simp only [words, List.mem_cons, List.not_mem_nil, or_false, Prod.mk.injEq] at known
      rcases known with ⟨-, rfl⟩ | ⟨-, rfl⟩ | ⟨-, rfl⟩ | ⟨-, rfl⟩ | ⟨-, rfl⟩ | ⟨-, rfl⟩ <;>
        constructor
    rw [begins, readValue_atom start, ← begins, readAtom, found]
    exact .of_read fits

theorem readAs_number {cs : List Char} {n : Numeral} (numeral : SpellsNumeral cs n)
    (rest : List Char) : (Phrase.value n.denoted).ReadAs lone (cs ++ rest) rest := by
  rintro (_ | fuel) depth room _ enough ends
  · omega
  · obtain ⟨c, tail, begins, start⟩ := atom_of_spellsNumeral numeral rest
    have read := weighed_number numeral ends room
    rw [begins] at read ⊢
    rw [readValue_atom start]
    exact read

theorem readString_of_spells {cs rest : List Char} {units : List Nat}
    (chars : SpellsUnits cs units rest) :
    readString lone ('"' :: cs) = .ok (String.ofList (joinUnits lone units), rest) := by
  unfold readString
  rw [List.tail_cons, scanString_of_spells chars]
  rfl

theorem readAs_string {cs rest : List Char} {units : List Nat}
    (chars : SpellsUnits cs units rest) :
    (Phrase.value (.string (String.ofList (joinUnits lone units)))).ReadAs lone ('"' :: cs)
      rest := by
  rintro (_ | fuel) depth room _ enough _
  · omega
  · rw [readValue, readString_of_spells chars]
    exact .of_read .string

theorem readAs_noItems {cs rest : List Char} (close : Spaced cs (']' :: rest)) :
    (Phrase.value (.array [])).ReadAs lone ('[' :: cs) rest := by
  rintro (_ | fuel) depth room around enough _
  · omega
  · rw [readValue, close.skipSpace_of_not rfl]
    cases room with
    | zero =>
      rw [if_pos (show depth ≥ depthLimit by omega)]
      exact .of_refused nofun rfl
    | succ room =>
      rw [if_neg (show ¬depth ≥ depthLimit by omega)]
      exact .of_read (.array nofun)

theorem readAs_noFields {cs rest : List Char} (close : Spaced cs ('}' :: rest)) :
    (Phrase.value (.object [])).ReadAs lone ('{' :: cs) rest := by
  rintro (_ | fuel) depth room around enough _
  · omega
  · rw [readValue, close.skipSpace_of_not rfl]
    cases room with
    | zero =>
      rw [if_pos (show depth ≥ depthLimit by omega)]
      exact .of_refused nofun rfl
    | succ room =>
      rw [if_neg (show ¬depth ≥ depthLimit by omega)]
      exact .of_read (.object nofun)

theorem Spells.items_start {cs rest : List Char} {items : List Json}
    (h : Spells lone cs (.items items) rest) : ∃ c tail, skipSpace cs = c :: tail ∧ c ≠ ']' := by
  have start {inner behind : List Char} {v : Json} (before : Spaced cs inner)
      (item : Spells lone inner (.value v) behind) :
      ∃ c tail, skipSpace cs = c :: tail ∧ c ≠ ']' := by
    obtain ⟨c, tail, rfl, start⟩ := item.start
    refine ⟨c, tail, item.skipSpace_of_spaced before, ?_⟩
    rintro rfl
    cases start
  cases h with
  | lastItem before item => exact start before item
  | nextItem before item => exact start before item

theorem Spells.fields_start {cs rest : List Char} {fields : List (String × Json)}
    (h : Spells lone cs (.fields fields) rest) : ∃ tail, skipSpace cs = '"' :: tail := by
  have start {inner : List Char} {name : String} (named : SpellsName lone cs name inner) :
      ∃ tail, skipSpace cs = '"' :: tail := by
    obtain ⟨before, -, -, -⟩ := named
    exact ⟨_, before.skipSpace_of_not rfl⟩
  cases h with
  | lastField named => exact start named
  | nextField named => exact start named

theorem readAs_array {cs rest : List Char} {items : List Json}
    (each : Spells lone cs (.items items) rest)
    (ih : (Phrase.items items).ReadAs lone cs rest) :
    (Phrase.value (.array items)).ReadAs lone ('[' :: cs) rest := by
  rintro (_ | fuel) depth room around enough _
  · omega
  · obtain ⟨c, tail, begins, other⟩ := each.items_start
    rw [List.length_cons] at enough
    rw [readValue]
    cases room with
    | zero =>
      rw [if_pos (show depth ≥ depthLimit by omega)]
      exact .of_refused nofun rfl
    | succ room =>
      have inner := ih fuel (depth + 1) room [] (by omega) (by omega)
      rw [if_neg (show ¬depth ≥ depthLimit by omega)]
      rw [begins] at inner ⊢
      split
      · next same => cases same; exact absurd rfl other
      · refine Weighed.of_iff fits_array_iff.symm ?_
        exact inner.bind_ok rfl

theorem readAs_object {cs rest : List Char} {fields : List (String × Json)}
    (each : Spells lone cs (.fields fields) rest)
    (ih : (Phrase.fields fields).ReadAs lone cs rest) :
    (Phrase.value (.object fields)).ReadAs lone ('{' :: cs) rest := by
  rintro (_ | fuel) depth room around enough _
  · omega
  · obtain ⟨tail, begins⟩ := each.fields_start
    rw [List.length_cons] at enough
    rw [readValue]
    cases room with
    | zero =>
      rw [if_pos (show depth ≥ depthLimit by omega)]
      exact .of_refused nofun rfl
    | succ room =>
      have inner := ih fuel (depth + 1) room [] (by omega) (by omega)
      rw [if_neg (show ¬depth ≥ depthLimit by omega)]
      rw [begins] at inner ⊢
      refine Weighed.of_iff fits_object_iff.symm ?_
      exact inner.bind_ok rfl

theorem readAs_lastItem {cs inner behind rest : List Char} {v : Json} (before : Spaced cs inner)
    (item : Spells lone inner (.value v) behind) (close : Spaced behind (']' :: rest))
    (ih : (Phrase.value v).ReadAs lone inner behind) :
    (Phrase.items [v]).ReadAs lone cs rest := by
  rintro (_ | fuel) depth room done around enough
  · omega
  · have short := before.suffix.length_le
    have read := ih fuel depth room around (by omega)
      (ends_of_spaced close (ends_cons (by decide) rest))
    rw [item.skipSpace_of_spaced before, readItems]
    refine (read.bind_ok ?_).of_iff List.forall_mem_singleton.symm
    dsimp only
    rw [close.skipSpace_of_not rfl]
    simp [pure, Except.pure]

theorem readAs_nextItem {cs inner behind more rest : List Char} {v : Json} {items : List Json}
    (before : Spaced cs inner) (item : Spells lone inner (.value v) behind)
    (comma : Spaced behind (',' :: more)) (ih : (Phrase.value v).ReadAs lone inner behind)
    (ih' : (Phrase.items items).ReadAs lone more rest) :
    (Phrase.items (v :: items)).ReadAs lone cs rest := by
  rintro (_ | fuel) depth room done around enough
  · omega
  · have short := before.suffix.length_le
    have shorter := item.length_le
    have later := comma.suffix.length_le
    rw [List.length_cons] at later
    have read := ih fuel depth room around (by omega)
      (ends_of_spaced comma (ends_cons (by decide) more))
    have others := ih' fuel depth room (v :: done) around (by omega)
    rw [item.skipSpace_of_spaced before, readItems]
    refine (read.bind ?_).of_iff List.forall_mem_cons.symm
    dsimp only
    rw [comma.skipSpace_of_not rfl]
    simpa using others

-- The name of a field is read, and then its value as the first thing behind the colon.
theorem readFields_of_name {cs inner : List Char} {name : String}
    (named : SpellsName lone cs name inner) (start : skipSpace inner = inner) (fuel depth : Nat)
    (done : List (String × Json)) :
    readFields lone (fuel + 1) depth (skipSpace cs) done = (do
      let (value, rest) ← readValue lone fuel depth inner
      match skipSpace rest with
      | '}' :: rest => return (((name, value) :: done).reverse, rest)
      | ',' :: rest => readFields lone fuel depth (skipSpace rest) ((name, value) :: done)
      | rest => complain .expectingComma rest) := by
  obtain ⟨before, chars, between, behind⟩ := named
  rw [before.skipSpace_of_not rfl, readFields, readString_of_spells chars]
  dsimp only [bind, Except.bind]
  simp only [between.skipSpace_of_not rfl, behind.skipSpace_eq, start]
  all_goals rfl

theorem Spells.skipSpace_eq {cs rest : List Char} {v : Json}
    (h : Spells lone cs (.value v) rest) : skipSpace cs = cs := h.skipSpace_of_spaced .refl

theorem readAs_lastField {cs inner behind rest : List Char} {name : String} {v : Json}
    (named : SpellsName lone cs name inner) (value : Spells lone inner (.value v) behind)
    (close : Spaced behind ('}' :: rest)) (ih : (Phrase.value v).ReadAs lone inner behind) :
    (Phrase.fields [(name, v)]).ReadAs lone cs rest := by
  rintro (_ | fuel) depth room done around enough
  · omega
  · have short := named.length_lt
    have read := ih fuel depth room around (by omega)
      (ends_of_spaced close (ends_cons (by decide) rest))
    rw [readFields_of_name named value.skipSpace_eq]
    refine (read.bind_ok ?_).of_iff List.forall_mem_singleton.symm
    dsimp only
    rw [close.skipSpace_of_not rfl]
    simp [pure, Except.pure]

theorem readAs_nextField {cs inner behind more rest : List Char} {name : String} {v : Json}
    {fields : List (String × Json)} (named : SpellsName lone cs name inner)
    (value : Spells lone inner (.value v) behind) (comma : Spaced behind (',' :: more))
    (ih : (Phrase.value v).ReadAs lone inner behind)
    (ih' : (Phrase.fields fields).ReadAs lone more rest) :
    (Phrase.fields ((name, v) :: fields)).ReadAs lone cs rest := by
  rintro (_ | fuel) depth room done around enough
  · omega
  · have short := named.length_lt
    have shorter := value.length_le
    have later := comma.suffix.length_le
    rw [List.length_cons] at later
    have read := ih fuel depth room around (by omega)
      (ends_of_spaced comma (ends_cons (by decide) more))
    have others := ih' fuel depth room ((name, v) :: done) around (by omega)
    rw [readFields_of_name named value.skipSpace_eq]
    refine (read.bind ?_).of_iff List.forall_mem_cons.symm
    dsimp only
    rw [comma.skipSpace_of_not rfl]
    simpa using others

theorem Spells.readAs {cs rest : List Char} {phrase : Phrase} (h : Spells lone cs phrase rest) :
    phrase.ReadAs lone cs rest := by
  induction h with
  | word known => exact readAs_word known _
  | number numeral => exact readAs_number numeral _
  | string chars => exact readAs_string chars
  | noItems close => exact readAs_noItems close
  | array each ih => exact readAs_array each ih
  | noFields close => exact readAs_noFields close
  | object each ih => exact readAs_object each ih
  | lastItem before item close ih => exact readAs_lastItem before item close ih
  | nextItem before item comma _ ih ih' => exact readAs_nextItem before item comma ih ih'
  | lastField named value close ih => exact readAs_lastField named value close ih
  | nextField named value comma _ ih ih' => exact readAs_nextField named value comma ih ih'

/-! ## 4. What is read is spelled -/

-- One step of each of the three readers, with what they read with less fuel as hypotheses.

theorem spells_of_readString {cs rest : List Char} {s : String}
    (h : readString lone ('"' :: cs) = .ok (s, rest)) :
    ∃ units, s = String.ofList (joinUnits lone units) ∧ SpellsUnits cs units rest := by
  obtain ⟨⟨units, behind⟩, scanned, h⟩ := bind_eq_ok_iff.mp h
  cases h
  obtain ⟨new, rfl, chars⟩ := spells_of_scanString scanned
  exact ⟨_, rfl, chars⟩

section

variable {fuel : Nat}
  (values : ∀ {depth cs v rest}, readValue lone fuel depth cs = .ok (v, rest) →
    Spells lone cs (.value v) rest)
  (items : ∀ {depth cs inner done all rest}, Spaced cs inner →
    readItems lone fuel depth inner done = .ok (all, rest) →
      ∃ new, all = done.reverse ++ new ∧ Spells lone cs (.items new) rest)
  (fields : ∀ {depth cs inner done all rest}, Spaced cs inner →
    readFields lone fuel depth inner done = .ok (all, rest) →
      ∃ new, all = done.reverse ++ new ∧ Spells lone cs (.fields new) rest)

include items fields in
theorem spells_of_readValue {depth : Nat} {cs rest : List Char} {v : Json}
    (h : readValue lone (fuel + 1) depth cs = .ok (v, rest)) : Spells lone cs (.value v) rest := by
  rw [readValue.eq_def] at h
  dsimp only at h
  split at h
  · obtain ⟨⟨s, behind⟩, read, h⟩ := bind_eq_ok_iff.mp h
    cases h
    obtain ⟨units, rfl, chars⟩ := spells_of_readString read
    exact .string chars
  · next tail =>
    split_ifs at h with deep
    split at h
    · next close =>
      cases h
      exact .noFields (close ▸ spaced_skipSpace tail)
    · obtain ⟨⟨all, behind⟩, read, h⟩ := bind_eq_ok_iff.mp h
      cases h
      obtain ⟨new, rfl, each⟩ := fields (spaced_skipSpace tail) read
      exact .object each
  · next tail =>
    split_ifs at h with deep
    split at h
    · next close =>
      cases h
      exact .noItems (close ▸ spaced_skipSpace tail)
    · obtain ⟨⟨all, behind⟩, read, h⟩ := bind_eq_ok_iff.mp h
      cases h
      obtain ⟨new, rfl, each⟩ := items (spaced_skipSpace tail) read
      exact .array each
  · exact spells_of_readAtom h

include values items in
theorem spells_of_readItems {depth : Nat} {cs inner rest : List Char} {done all : List Json}
    (before : Spaced cs inner) (h : readItems lone (fuel + 1) depth inner done = .ok (all, rest)) :
    ∃ new, all = done.reverse ++ new ∧ Spells lone cs (.items new) rest := by
  rw [readItems] at h
  obtain ⟨⟨item, behind⟩, read, h⟩ := bind_eq_ok_iff.mp h
  have spelled := values read
  dsimp only at h
  split at h
  · next close =>
    cases h
    exact ⟨[item], List.reverse_cons, .lastItem before spelled (close ▸ spaced_skipSpace behind)⟩
  · next more comma =>
    obtain ⟨new, rfl, others⟩ := items (spaced_skipSpace more) h
    exact ⟨item :: new, by simp,
      .nextItem before spelled (comma ▸ spaced_skipSpace behind) others⟩
  · cases h

include values fields in
theorem spells_of_readFields {depth : Nat} {cs inner rest : List Char}
    {done all : List (String × Json)} (before : Spaced cs inner)
    (h : readFields lone (fuel + 1) depth inner done = .ok (all, rest)) :
    ∃ new, all = done.reverse ++ new ∧ Spells lone cs (.fields new) rest := by
  rw [readFields.eq_def] at h
  dsimp only at h
  split at h
  · obtain ⟨⟨name, behind⟩, read, h⟩ := bind_eq_ok_iff.mp h
    obtain ⟨units, rfl, chars⟩ := spells_of_readString read
    dsimp only at h
    split at h
    · next after colon =>
      have named : SpellsName lone cs _ (skipSpace after) :=
        .name before chars (colon ▸ spaced_skipSpace behind) (spaced_skipSpace after)
      obtain ⟨⟨value, left⟩, read, h⟩ := bind_eq_ok_iff.mp h
      have spelled := values read
      dsimp only at h
      split at h
      · next close =>
        cases h
        exact ⟨[_], List.reverse_cons, .lastField named spelled (close ▸ spaced_skipSpace left)⟩
      · next more comma =>
        obtain ⟨new, rfl, others⟩ := fields (spaced_skipSpace more) h
        exact ⟨_ :: new, by simp, .nextField named spelled (comma ▸ spaced_skipSpace left) others⟩
      · cases h
    · cases h
  · cases h

end

theorem spells_of_readers (lone : Text.StandIns) (fuel : Nat) :
    (∀ {depth cs v rest}, readValue lone fuel depth cs = .ok (v, rest) →
      Spells lone cs (.value v) rest) ∧
    (∀ {depth cs inner done all rest}, Spaced cs inner →
      readItems lone fuel depth inner done = .ok (all, rest) →
        ∃ new, all = done.reverse ++ new ∧ Spells lone cs (.items new) rest) ∧
    (∀ {depth cs inner done all rest}, Spaced cs inner →
      readFields lone fuel depth inner done = .ok (all, rest) →
        ∃ new, all = done.reverse ++ new ∧ Spells lone cs (.fields new) rest) := by
  induction fuel with
  | zero =>
    refine ⟨fun h => ?_, fun _ h => ?_, fun _ h => ?_⟩
    · rw [readValue] at h
      cases h
    · rw [readItems] at h
      cases h
    · rw [readFields] at h
      cases h
  | succ fuel ih =>
    obtain ⟨values, items, fields⟩ := ih
    exact ⟨spells_of_readValue items fields, spells_of_readItems values items,
      spells_of_readFields values fields⟩

/-! ## 5. Whole texts -/

theorem Denotes.read_eq {cs : List Char} {document : Json} (h : Denotes lone cs document) :
    Weighed (document.Fits depthLimit) document (read cs lone) := by
  obtain ⟨inner, left, before, spelled, behind⟩ := h
  obtain ⟨c, tail, begins, start⟩ := spelled.start
  have value := spelled.readAs (2 * cs.length + 2) 0 depthLimit (Nat.zero_add _)
    (by have := before.suffix.length_le; omega) (ends_of_spaced behind nofun)
  unfold read
  split
  · next marked =>
    -- A byte order mark is no blank, and does not begin a value.
    cases before with
    | refl => cases begins; cases start
    | cons space => cases space
  · rw [spelled.skipSpace_of_spaced before]
    refine value.bind_ok ?_
    dsimp only
    rw [behind.skipSpace_eq]
    rfl

/-- The reader reads what a text denotes if it fits, and nothing else. -/
theorem read_eq_ok_iff {cs : List Char} {document : Json} :
    read cs lone = .ok document ↔ Denotes lone cs document ∧ document.Fits depthLimit := by
  constructor
  · intro h
    have denoted : Denotes lone cs document := by
      unfold read at h
      split at h
      · cases h
      · obtain ⟨⟨value, left⟩, valued, h⟩ := bind_eq_ok_iff.mp h
        dsimp only at h
        split at h
        · next close =>
          cases h
          exact ⟨_, _, spaced_skipSpace cs, (spells_of_readers lone _).1 valued,
            close ▸ spaced_skipSpace left⟩
        · cases h
    exact ⟨denoted, (denoted.read_eq.of_ok h).1⟩
  · rintro ⟨denoted, fits⟩
    exact denoted.read_eq.read fits

/-! ## 6. Line ends -/

theorem Spaced.unifyNewlines_cons {c : Char} {cs rest : List Char} (h : Spaced cs (c :: rest))
    (other : c ≠ '\r') : Spaced (Text.unifyNewlines cs) (c :: Text.unifyNewlines rest) := by
  rw [← Text.unifyNewlines_cons other]
  exact h.unifyNewlines

theorem SpellsName.unifyNewlines {cs rest : List Char} {name : String}
    (h : SpellsName lone cs name rest) :
    SpellsName lone (Text.unifyNewlines cs) name (Text.unifyNewlines rest) := by
  obtain ⟨before, chars, between, behind⟩ := h
  exact .name (before.unifyNewlines_cons (by decide)) chars.unifyNewlines
    (between.unifyNewlines_cons (by decide)) behind.unifyNewlines

theorem words_without_return : ∀ word ∈ words, '\r' ∉ word.1.toList := by decide

theorem Spells.unifyNewlines {cs rest : List Char} {phrase : Phrase}
    (h : Spells lone cs phrase rest) :
    Spells lone (Text.unifyNewlines cs) phrase (Text.unifyNewlines rest) := by
  induction h with
  | word known =>
    rw [Text.unifyNewlines_append (words_without_return _ known)]
    exact .word known
  | number numeral =>
    rw [Text.unifyNewlines_append numeral.return_not_mem]
    exact .number numeral
  | string chars => simpa using Spells.string chars.unifyNewlines
  | noItems close => simpa using Spells.noItems (close.unifyNewlines_cons (by decide))
  | array _ ih => simpa using Spells.array ih
  | noFields close => simpa using Spells.noFields (close.unifyNewlines_cons (by decide))
  | object _ ih => simpa using Spells.object ih
  | lastItem before _ close ih =>
    exact .lastItem before.unifyNewlines ih (close.unifyNewlines_cons (by decide))
  | nextItem before _ comma _ ih ih' =>
    exact .nextItem before.unifyNewlines ih (comma.unifyNewlines_cons (by decide)) ih'
  | lastField named _ close ih =>
    exact .lastField named.unifyNewlines ih (close.unifyNewlines_cons (by decide))
  | nextField named _ comma _ ih ih' =>
    exact .nextField named.unifyNewlines ih (comma.unifyNewlines_cons (by decide)) ih'

/-- A text denotes the same document however its lines end. -/
theorem Denotes.unifyNewlines {cs : List Char} {document : Json} (h : Denotes lone cs document) :
    Denotes lone (Text.unifyNewlines cs) document := by
  obtain ⟨inner, left, before, spelled, behind⟩ := h
  exact ⟨_, _, before.unifyNewlines, spelled.unifyNewlines, behind.unifyNewlines⟩

end Toolsmith.Json
