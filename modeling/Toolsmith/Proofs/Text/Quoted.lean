import Mathlib.Algebra.Group.Nat.Defs
import Toolsmith.Text.Quoted
import Toolsmith.Json.StandIns
import Toolsmith.Proofs.Text.Lines
/-!
# Reading quoted literals back

A quoted literal is read one character after another (`body?`), by the rules of the language that
the generated modules are written in: it ends at the first closing quote that no backslash stands
before, it may not hold the end of a line, and a backslash begins one of a few escapes.  A literal
that was written for a text is read back as its code points, and what follows it is left
(`literal?_encode`).  Nothing in it can end a line (`unbroken_encode`).
-/

namespace Toolsmith.Text.Quoted

/-! ## 1. Reading -/

/-- How far an escape has been read: not begun, its backslash, or some of its digits, with the
number of digits that follow the next one and the value so far. -/
inductive Within
  | none
  | backslash
  | digits (more value : Nat)

/-- What a character after a backslash stands for: a code point, or so many digits, less one, of
a code point. -/
def escaped? : Char → Option (Nat ⊕ Nat)
  | '\\' => some (.inl 0x5c)
  | '\'' => some (.inl 0x27)
  | 'n' => some (.inl 0x0a)
  | 'r' => some (.inl 0x0d)
  | 't' => some (.inl 0x09)
  | 'x' => some (.inr 1)
  | 'u' => some (.inr 3)
  | 'U' => some (.inr 7)
  | _ => none

def push (code : Nat) (read : List Nat × List Char) : List Nat × List Char :=
  (code :: read.1, read.2)

def body? (quote : Char) : Within → List Char → Option (List Nat × List Char)
  | _, [] => none
  | .none, c :: cs =>
    if c = quote then some ([], cs)
    else if c = '\\' then body? quote .backslash cs
    else if c = '\n' ∨ c = '\r' then none
    else (body? quote .none cs).map (push c.toNat)
  | .backslash, c :: cs =>
    match escaped? c with
    | some (.inl code) => (body? quote .none cs).map (push code)
    | some (.inr more) => body? quote (.digits more 0) cs
    | none => none
  | .digits more value, c :: cs =>
    match Json.hexValue? c, more with
    | some d, 0 => (body? quote .none cs).map (push (16 * value + d))
    | some d, more + 1 => body? quote (.digits more (16 * value + d)) cs
    | none, _ => none

/-- The code points of the literal in front of some characters, and the characters after it. -/
def literal? : List Char → Option (List Nat × List Char)
  | '\'' :: cs => body? '\'' .none cs
  | '"' :: cs => body? '"' .none cs
  | _ => none

/-- The code points of a text in which some characters stand in for others. -/
def codes (lone : StandIns) (cs : List Char) : List Nat :=
  cs.map fun c => (lone.code? c).getD c.toNat

@[simp] theorem codes_nil (cs : List Char) : codes [] cs = cs.map Char.toNat := rfl

/-! ## 2. Digits -/

theorem hexValue?_hexDigit : ∀ d < 16, Json.hexValue? (hexDigit d) = some d := by
  decide

theorem body?_digit (quote : Char) {d : Nat} (hd : d < 16) (more value : Nat) (cs : List Char) :
    body? quote (.digits (more + 1) value) (hexDigit d :: cs) =
      body? quote (.digits more (16 * value + d)) cs := by
  rw [body?.eq_def]
  simp only [hexValue?_hexDigit d hd]

theorem body?_lastDigit (quote : Char) {d : Nat} (hd : d < 16) (value : Nat) (cs : List Char) :
    body? quote (.digits 0 value) (hexDigit d :: cs) =
      (body? quote .none cs).map (push (16 * value + d)) := by
  rw [body?.eq_def]
  simp only [hexValue?_hexDigit d hd]

-- Digits that are read make up the last digits of the number they were written for.
theorem body?_hexDigits (quote : Char) (width n more value : Nat) (cs : List Char) :
    body? quote (.digits (width + more) value) (hexDigits width n ++ cs) =
      body? quote (.digits more (16 ^ width * value + n % 16 ^ width)) cs := by
  induction width generalizing n more cs with
  | zero => simp [hexDigits, Nat.mod_one]
  | succ width ih =>
    -- The last digit is read on top of the digits of `n / 16`.
    have carried : 16 * (16 ^ width * value + n / 16 % 16 ^ width) + n % 16 =
        16 ^ (width + 1) * value + n % 16 ^ (width + 1) := by
      rw [Nat.pow_succ', Nat.mod_mul, Nat.mul_add, Nat.mul_assoc]
      omega
    rw [hexDigits, List.append_assoc, Nat.add_assoc, Nat.add_comm 1 more, ih,
      List.singleton_append, body?_digit quote (Nat.mod_lt n (by decide)), carried]

theorem body?_code (quote : Char) {width code : Nat} (fits : code < 16 ^ (width + 1))
    (cs : List Char) :
    body? quote (.digits width 0) (hexDigits (width + 1) code ++ cs) =
      (body? quote .none cs).map (push code) := by
  have whole : 16 * (16 ^ width * 0 + code / 16 % 16 ^ width) + code % 16 = code := by
    have : code / 16 < 16 ^ width := by
      rw [Nat.pow_succ] at fits
      omega
    rw [Nat.mod_eq_of_lt this]
    omega
  have digits := body?_hexDigits quote width (code / 16) 0 0 (hexDigit (code % 16) :: cs)
  rw [Nat.add_zero] at digits
  rw [hexDigits, List.append_assoc, List.singleton_append, digits,
    body?_lastDigit quote (Nat.mod_lt code (by decide)), whole]

/-! ## 3. Escapes -/

theorem body?_escapeCode {quote : Char} (apart : '\\' ≠ quote) {code : Nat}
    (fits : code < 16 ^ 8) (cs : List Char) :
    body? quote .none (escapeCode code ++ cs) = (body? quote .none cs).map (push code) := by
  have start (letter : Char) (more : Nat) (h : escaped? letter = some (.inr more))
      (rest : List Char) : body? quote .none ('\\' :: letter :: rest) =
        body? quote (.digits more 0) rest := by
    rw [body?, if_neg apart, if_pos rfl, body?, h]
  unfold escapeCode
  split
  next small =>
    rw [List.cons_append, List.cons_append, start 'x' 1 rfl]
    exact body?_code quote (by omega) cs
  next =>
    split
    next medium =>
      rw [List.cons_append, List.cons_append, start 'u' 3 rfl]
      exact body?_code quote (by omega) cs
    next =>
      rw [List.cons_append, List.cons_append, start 'U' 7 rfl]
      exact body?_code quote fits cs

/-- Each escape of a character is read back as its code point.  No double quote is escaped: a
text that holds one stands between single quotes. -/
theorem body?_escape {quote c : Char} (quotes : quote = '\'' ∨ quote = '"' ∧ c ≠ '"')
    (cs : List Char) :
    body? quote .none (escape quote c ++ cs) = (body? quote .none cs).map (push c.toNat) := by
  have apart : '\\' ≠ quote := by
    rcases quotes with rfl | ⟨rfl, -⟩ <;> decide
  have short (letter : Char) (code : Nat) (h : escaped? letter = some (.inl code)) :
      body? quote .none (['\\', letter] ++ cs) = (body? quote .none cs).map (push code) := by
    rw [List.cons_append, List.singleton_append, body?, if_neg apart, if_pos rfl, body?.eq_def]
    simp only [h]
  have range : c.toNat < 16 ^ 8 := by
    have := c.valid
    simp only [UInt32.isValidChar, Nat.isValidChar] at this
    simp only [Char.toNat]
    omega
  -- One case for each line of `escape`, in its order.
  unfold escape
  by_cases plain : c = quote ∨ c = '\\'
  · rw [if_pos plain]
    rcases plain with rfl | rfl
    · rcases quotes with rfl | ⟨rfl, double⟩
      · exact short _ 0x27 rfl
      · exact absurd rfl double
    · exact short _ 0x5c rfl
  · rw [if_neg plain]
    by_cases feed : c = '\n'
    · rw [if_pos feed, feed]
      exact short 'n' 0x0a rfl
    · rw [if_neg feed]
      by_cases carriage : c = '\r'
      · rw [if_pos carriage, carriage]
        exact short 'r' 0x0d rfl
      · rw [if_neg carriage]
        by_cases tab : c = '\t'
        · rw [if_pos tab, tab]
          exact short 't' 0x09 rfl
        · rw [if_neg tab]
          rw [not_or] at plain
          cases isPrintable c with
          | true =>
            rw [if_pos rfl, List.singleton_append, body?, if_neg plain.1, if_neg plain.2,
              if_neg (not_or.mpr ⟨feed, carriage⟩)]
          | false =>
            rw [if_neg Bool.false_ne_true]
            exact body?_escapeCode apart range cs

/-! ## 4. Literals -/

def Lone (lone : StandIns) : Prop := ∀ s ∈ lone, isSurrogate s.code = true

theorem lone_nil : Lone [] := by
  intro s hs
  cases hs

/-- The stand-ins with which documents are read stand for halves of surrogate pairs. -/
theorem lone_standIns (documents : List (List Char)) : Lone (Json.standIns documents) := by
  intro s hs
  have chosen := (StandIns.mem_choose hs).1
  rw [List.mem_eraseDups] at chosen
  exact (List.mem_filter.mp chosen).2

-- The characters that documents hold or ask for by escapes stand for themselves.
theorem code?_standIns {documents : List (List Char)} {c : Char}
    (used : c ∈ Json.joinUnits [] (documents.flatMap fun cs => Json.unitsOf cs [])) :
    (Json.standIns documents).code? c = none := by
  unfold StandIns.code?
  rw [Option.map_eq_none_iff, List.find?_eq_none]
  intro s hs same
  exact (StandIns.mem_choose hs).2 (decide_eq_true_eq.mp same ▸ used)

theorem Lone.code_lt {lone : StandIns} (h : Lone lone) {c : Char} {code : Nat}
    (stands : lone.code? c = some code) : code < 16 ^ 8 := by
  obtain ⟨s, found, rfl⟩ := Option.map_eq_some_iff.mp stands
  have surrogate := h s (List.mem_of_find?_eq_some found)
  simp only [isSurrogate, Bool.and_eq_true, decide_eq_true_eq] at surrogate
  omega

theorem body?_escapeIn {lone : StandIns} (h : Lone lone) {quote c : Char}
    (quotes : quote = '\'' ∨ quote = '"' ∧ c ≠ '"') (cs : List Char) :
    body? quote .none (escapeIn lone quote c ++ cs) =
      (body? quote .none cs).map (push ((lone.code? c).getD c.toNat)) := by
  unfold escapeIn
  cases stands : lone.code? c with
  | none => exact body?_escape quotes cs
  | some code =>
    have apart : '\\' ≠ quote := by
      rcases quotes with rfl | ⟨rfl, -⟩ <;> decide
    exact body?_escapeCode apart (h.code_lt stands) cs

-- The inside of a literal is read back up to the closing quote.
theorem body?_flatMap {lone : StandIns} (h : Lone lone) {quote : Char} {cs : List Char}
    (quotes : ∀ c ∈ cs, quote = '\'' ∨ quote = '"' ∧ c ≠ '"') (rest : List Char) :
    body? quote .none (cs.flatMap (escapeIn lone quote) ++ quote :: rest) =
      some (codes lone cs, rest) := by
  induction cs with
  | nil =>
    rw [List.flatMap_nil, List.nil_append, body?, if_pos rfl]
    rfl
  | cons c cs ih =>
    rw [List.flatMap_cons, List.append_assoc, body?_escapeIn h (quotes c List.mem_cons_self),
      ih fun d hd => quotes d (List.mem_cons_of_mem c hd)]
    rfl

/-- A literal is read back as the code points of its text, and what follows it is left. -/
theorem literal?_encode {lone : StandIns} (h : Lone lone) (cs rest : List Char) :
    literal? (encode cs lone ++ rest) = some (codes lone cs, rest) := by
  unfold encode quoteFor
  dsimp only
  rw [List.cons_append, List.append_assoc, List.singleton_append]
  -- Double quotes are taken only where the text has none of them.
  split
  next mixed =>
    have double : '"' ∉ cs := by
      simpa using (Bool.and_eq_true_iff.mp mixed).2
    exact body?_flatMap h (fun c hc => .inr ⟨rfl, fun same => double (same ▸ hc)⟩) rest
  next => exact body?_flatMap h (fun c _ => .inl rfl) rest

example : literal? "'a\\'b'c'".toList = some ([0x61, 0x27, 0x62], ['c', '\'']) := rfl

/-! ## 5. Line ends -/

theorem isLineEnd_hexDigit : ∀ d < 16, isLineEnd (hexDigit d) = false := by
  decide

theorem isPrintable_of_isLineEnd {c : Char} (h : isLineEnd c = true) : isPrintable c = false := by
  simp only [isLineEnd, Bool.or_eq_true, beq_iff_eq] at h
  rcases h with ((((((((rfl | rfl) | rfl) | rfl) | rfl) | rfl) | rfl) | rfl) | rfl) | rfl <;>
    decide +kernel

theorem unbroken_hexDigits (width n : Nat) : Unbroken (hexDigits width n) := by
  induction width generalizing n with
  | zero => exact List.forall_mem_nil _
  | succ width ih =>
    refine unbroken_append.mpr ⟨ih _, ?_⟩
    intro c hc
    rw [List.mem_singleton.mp hc]
    exact isLineEnd_hexDigit _ (Nat.mod_lt n (by decide))

theorem unbroken_escapeCode (code : Nat) : Unbroken (escapeCode code) := by
  have start (letter : Char) (h : isLineEnd letter = false) {rest : List Char}
      (digits : Unbroken rest) : Unbroken ('\\' :: letter :: rest) :=
    List.forall_mem_cons.mpr ⟨rfl, List.forall_mem_cons.mpr ⟨h, digits⟩⟩
  unfold escapeCode
  split
  · exact start 'x' rfl (unbroken_hexDigits 2 code)
  · split
    · exact start 'u' rfl (unbroken_hexDigits 4 code)
    · exact start 'U' rfl (unbroken_hexDigits 8 code)

/-- A character that ends a line is not printable, so it never stands in a literal as it is. -/
theorem unbroken_escape {quote : Char} (hquote : isLineEnd quote = false) (c : Char) :
    Unbroken (escape quote c) := by
  have backslash (d : Char) (h : isLineEnd d = false) : Unbroken ['\\', d] :=
    List.forall_mem_cons.mpr ⟨rfl, List.forall_mem_singleton.mpr h⟩
  unfold escape
  split
  next plain =>
    refine backslash c ?_
    rcases plain with rfl | rfl
    · exact hquote
    · rfl
  next =>
    split
    · exact backslash 'n' rfl
    · split
      · exact backslash 'r' rfl
      · split
        · exact backslash 't' rfl
        · split
          next printable =>
            refine List.forall_mem_singleton.mpr ?_
            cases ends : isLineEnd c with
            | false => rfl
            | true =>
              rw [isPrintable_of_isLineEnd ends] at printable
              cases printable
          next => exact unbroken_escapeCode _

theorem unbroken_escapeIn {quote : Char} (hquote : isLineEnd quote = false) (lone : StandIns)
    (c : Char) : Unbroken (escapeIn lone quote c) := by
  unfold escapeIn
  split
  · exact unbroken_escapeCode _
  · exact unbroken_escape hquote c

/-- A literal does not end the line that it stands in. -/
theorem unbroken_encode (cs : List Char) (lone : StandIns) : Unbroken (encode cs lone) := by
  have hquote : isLineEnd (quoteFor cs) = false := by
    unfold quoteFor
    split <;> rfl
  unfold encode
  dsimp only
  refine List.forall_mem_cons.mpr ⟨hquote, unbroken_append.mpr ⟨?_, ?_⟩⟩
  · intro d hd
    obtain ⟨c, -, hc⟩ := List.mem_flatMap.mp hd
    exact unbroken_escapeIn hquote lone c d hc
  · exact List.forall_mem_singleton.mpr hquote

@[simp] theorem unbroken_literal (s : String) (lone : StandIns) :
    Unbroken (literal s lone).toList := by
  rw [literal, String.toList_ofList]
  exact unbroken_encode s.toList lone

end Toolsmith.Text.Quoted
