import Toolsmith.Text.Utf8
import Mathlib.Data.List.Basic
/-!
# UTF-8 read back

The bytes of a character come in four forms (`Spells`), and these are the bytes in which texts are
written (`spells_encodeChar`, `encodeChar_of_spells`).  One step of the decoder reads one form
(`decodeFrom_of_spells`) and reads nothing else (`exists_spells_of_decodeFrom`).  Main statement:
bytes are read as a text if and only if they are the ones that spell it (`decode_eq_ok_iff`).
-/

namespace Toolsmith.Text.Utf8

/-! ## 1. The forms of a character -/

theorem isContinuation_iff {b : UInt8} :
    isContinuation b = true ↔ 128 ≤ b.toNat ∧ b.toNat < 192 := by
  simp only [isContinuation, Bool.and_eq_true, decide_eq_true_eq, UInt8.le_iff_toNat_le]
  change 128 ≤ b.toNat ∧ b.toNat ≤ 191 ↔ _
  omega

theorem mayFollow_iff {lead b : UInt8} :
    mayFollow lead b = true ↔ 128 ≤ b.toNat ∧ b.toNat < 192 ∧
      (lead.toNat = 224 → 160 ≤ b.toNat) ∧ (lead.toNat = 237 → b.toNat < 160) ∧
      (lead.toNat = 240 → 144 ≤ b.toNat) ∧ (lead.toNat = 244 → b.toNat < 144) := by
  have eq_iff (n : UInt8) : lead = n ↔ lead.toNat = n.toNat := UInt8.toNat_inj.symm
  simp only [mayFollow, Bool.and_eq_true, isContinuation_iff, eq_iff]
  change _ ∧ (if lead.toNat = 224 then _ else if lead.toNat = 237 then _ else
    if lead.toNat = 240 then _ else if lead.toNat = 244 then _ else _) = true ↔ _
  split_ifs <;> simp only [decide_eq_true_eq, UInt8.le_iff_toNat_le, UInt8.lt_iff_toNat_lt,
    UInt8.toNat_ofNat, and_true] <;> omega

theorem payload_lt (b : UInt8) : payload b < 64 := Nat.mod_lt _ (by decide)

/-- Bytes that are one character, with its number: the forms of one to four bytes. -/
def Spells : List UInt8 → Nat → Prop
  | [b], n => b.toNat < 128 ∧ n = b.toNat
  | [b, b₁], n =>
    194 ≤ b.toNat ∧ b.toNat < 224 ∧ isContinuation b₁ = true ∧
      n = b.toNat % 32 * 64 + payload b₁
  | [b, b₁, b₂], n =>
    224 ≤ b.toNat ∧ b.toNat < 240 ∧ mayFollow b b₁ = true ∧ isContinuation b₂ = true ∧
      n = b.toNat % 16 * 4096 + payload b₁ * 64 + payload b₂
  | [b, b₁, b₂, b₃], n =>
    240 ≤ b.toNat ∧ b.toNat < 245 ∧ mayFollow b b₁ = true ∧ isContinuation b₂ = true ∧
      isContinuation b₃ = true ∧
      n = b.toNat % 8 * 262144 + payload b₁ * 4096 + payload b₂ * 64 + payload b₃
  | _, _ => False

theorem Spells.isValidChar {bytes : List UInt8} {n : Nat} (h : Spells bytes n) :
    n.isValidChar := by
  unfold Nat.isValidChar
  match bytes, h with
  | [b], ⟨_, _⟩ => omega
  | [b, b₁], ⟨_, _, _, value⟩ =>
    have second := payload_lt b₁
    omega
  | [b, b₁, b₂], ⟨_, _, follows, _, value⟩ =>
    -- What leads a surrogate may not be followed by the upper half of the continuations.
    obtain ⟨_, _, -, surrogate, -, -⟩ := mayFollow_iff.mp follows
    have second : payload b₁ = b₁.toNat % 64 := rfl
    have third := payload_lt b₂
    omega
  | [b, b₁, b₂, b₃], ⟨_, _, follows, _, _, value⟩ =>
    obtain ⟨_, _, -, -, overlong, beyond⟩ := mayFollow_iff.mp follows
    have second : payload b₁ = b₁.toNat % 64 := rfl
    have third := payload_lt b₂
    have fourth := payload_lt b₃
    omega

theorem Spells.ne_nil {bytes : List UInt8} {n : Nat} (h : Spells bytes n) : bytes ≠ [] := by
  rintro rfl
  exact h

theorem Spells.toNat_ofNat {bytes : List UInt8} {n : Nat} (h : Spells bytes n) :
    (Char.ofNat n).toNat = n := by
  unfold Char.ofNat
  rw [dif_pos h.isValidChar]
  rfl

/-- The bytes of a character are the form with its number. -/
theorem spells_encodeChar (c : Char) : Spells (String.utf8EncodeChar c) c.toNat := by
  have valid : c.toNat.isValidChar := c.valid
  have same : c.val.toNat = c.toNat := rfl
  unfold Nat.isValidChar at valid
  rw [String.utf8EncodeChar]
  change Spells (if c.toNat ≤ 127 then _ else if c.toNat ≤ 2047 then _ else
    if c.toNat ≤ 65535 then _ else _) _
  split_ifs with one two three
  · simp only [Spells, UInt8.toNat_ofNat']
    change c.toNat % 256 < 128 ∧ c.toNat = c.toNat % 256
    omega
  · simp only [Spells, isContinuation_iff, payload, UInt8.toNat_ofNat']
    omega
  · simp only [Spells, isContinuation_iff, mayFollow_iff, payload, UInt8.toNat_ofNat']
    omega
  · simp only [Spells, isContinuation_iff, mayFollow_iff, payload, UInt8.toNat_ofNat', same]
    have lead : (c.toNat / 262144 % 8 + 240) % 2 ^ 8 = c.toNat / 262144 + 240 := by omega
    have small (n : Nat) : (n % 64 + 128) % 2 ^ 8 = n % 64 + 128 := by omega
    rw [lead, small, small, small]
    refine ⟨by omega, by omega, ⟨by omega, by omega, by omega, by omega, by omega, by omega⟩,
      by omega, by omega, by omega⟩

theorem encodeChar_of_spells {bytes : List UInt8} {c : Char} (h : Spells bytes c.toNat) :
    String.utf8EncodeChar c = bytes := by
  have same : c.val.toNat = c.toNat := rfl
  rw [String.utf8EncodeChar, same]
  match bytes, h with
  | [b], h =>
    simp only [Spells] at h
    rw [if_pos (by omega)]
    simp only [List.cons.injEq, and_true, ← UInt8.toNat_inj, UInt8.toNat_ofNat']
    omega
  | [b, b₁], h =>
    simp only [Spells, isContinuation_iff, payload] at h
    rw [if_neg (by omega), if_pos (by omega)]
    simp only [List.cons.injEq, and_true, ← UInt8.toNat_inj, UInt8.toNat_ofNat']
    omega
  | [b, b₁, b₂], h =>
    simp only [Spells, isContinuation_iff, mayFollow_iff, payload] at h
    rw [if_neg (by omega), if_neg (by omega), if_pos (by omega)]
    simp only [List.cons.injEq, and_true, ← UInt8.toNat_inj, UInt8.toNat_ofNat']
    omega
  | [b, b₁, b₂, b₃], h =>
    simp only [Spells, isContinuation_iff, mayFollow_iff, payload] at h
    rw [if_neg (by omega), if_neg (by omega), if_neg (by omega)]
    simp only [List.cons.injEq, and_true, ← UInt8.toNat_inj, UInt8.toNat_ofNat']
    omega

/-! ## 2. One step of the decoder -/

theorem not_lt_of_le {b n : UInt8} {low : Nat} (h : low ≤ b.toNat) (h' : n.toNat ≤ low) :
    ¬b < n := by
  rw [UInt8.lt_iff_toNat_lt]
  omega

theorem toNat_le_of_not_lt {b n : UInt8} (h : ¬b < n) : n.toNat ≤ b.toNat :=
  UInt8.le_iff_toNat_le.mp (UInt8.not_lt.mp h)

theorem decodeFrom_of_spells {bytes : List UInt8} {n : Nat} (h : Spells bytes n)
    (rest : List UInt8) (place : Nat) (done : List Char) :
    decodeFrom (bytes ++ rest) place done =
      decodeFrom rest (place + bytes.length) (Char.ofNat n :: done) := by
  match bytes, h with
  | [b], ⟨one, value⟩ =>
    have one : b < 0x80 := UInt8.lt_iff_toNat_lt.mpr one
    rw [List.singleton_append, decodeFrom.eq_def]
    dsimp only
    rw [if_pos one, value]
    rfl
  | [b, b₁], ⟨low, high, second, value⟩ =>
    have one : ¬b < 0x80 := not_lt_of_le low (by decide)
    have late : ¬b < 0xC2 := not_lt_of_le low (by decide)
    have two : b < 0xE0 := UInt8.lt_iff_toNat_lt.mpr high
    rw [List.cons_append, List.cons_append, decodeFrom.eq_def]
    dsimp only
    rw [if_neg one, if_neg late, if_pos two, if_pos second, value]
    rfl
  | [b, b₁, b₂], ⟨low, high, second, third, value⟩ =>
    have one : ¬b < 0x80 := not_lt_of_le low (by decide)
    have late : ¬b < 0xC2 := not_lt_of_le low (by decide)
    have two : ¬b < 0xE0 := not_lt_of_le low (by decide)
    have three : b < 0xF0 := UInt8.lt_iff_toNat_lt.mpr high
    simp only [List.cons_append]
    rw [decodeFrom.eq_def]
    dsimp only
    rw [if_neg one, if_neg late, if_neg two, if_pos three, if_pos second, if_pos third, value]
    rfl
  | [b, b₁, b₂, b₃], ⟨low, high, second, third, fourth, value⟩ =>
    have one : ¬b < 0x80 := not_lt_of_le low (by decide)
    have late : ¬b < 0xC2 := not_lt_of_le low (by decide)
    have two : ¬b < 0xE0 := not_lt_of_le low (by decide)
    have three : ¬b < 0xF0 := not_lt_of_le low (by decide)
    have four : b < 0xF5 := UInt8.lt_iff_toNat_lt.mpr high
    simp only [List.cons_append]
    rw [decodeFrom.eq_def]
    dsimp only
    rw [if_neg one, if_neg late, if_neg two, if_neg three, if_pos four, if_pos second,
      if_pos third, if_pos fourth, value]
    rfl

/-- What the decoder reads off the beginning of bytes is one form. -/
theorem exists_spells_of_decodeFrom {b : UInt8} {rest : List UInt8} {place : Nat}
    {done cs : List Char} (h : decodeFrom (b :: rest) place done = .ok cs) :
    ∃ bytes n rest' place', b :: rest = bytes ++ rest' ∧ Spells bytes n ∧
      decodeFrom rest' place' (Char.ofNat n :: done) = .ok cs := by
  rw [decodeFrom.eq_def] at h
  dsimp only at h
  split_ifs at h with one late two three four
  · exact ⟨[b], _, rest, _, rfl, ⟨UInt8.lt_iff_toNat_lt.mp one, rfl⟩, h⟩
  · split at h
    · cases h
    · next b₁ rest =>
      split_ifs at h with second
      exact ⟨[b, b₁], _, rest, _, rfl,
        ⟨toNat_le_of_not_lt late, UInt8.lt_iff_toNat_lt.mp two, second, rfl⟩, h⟩
  · split at h
    · cases h
    · next b₁ rest =>
      split_ifs at h with second
      split at h
      · cases h
      · next b₂ rest =>
        split_ifs at h with third
        exact ⟨[b, b₁, b₂], _, rest, _, rfl,
          ⟨toNat_le_of_not_lt two, UInt8.lt_iff_toNat_lt.mp three, second, third, rfl⟩, h⟩
  · split at h
    · cases h
    · next b₁ rest =>
      split_ifs at h with second
      split at h
      · cases h
      · next b₂ rest =>
        split_ifs at h with third
        split at h
        · cases h
        · next b₃ rest =>
          split_ifs at h with fourth
          exact ⟨[b, b₁, b₂, b₃], _, rest, _, rfl,
            ⟨toNat_le_of_not_lt three, UInt8.lt_iff_toNat_lt.mp four, second, third, fourth, rfl⟩,
            h⟩

/-! ## 3. Whole texts -/

theorem decodeFrom_encode (cs : List Char) (place : Nat) (done : List Char) :
    decodeFrom (cs.flatMap String.utf8EncodeChar) place done = .ok (done.reverse ++ cs) := by
  induction cs generalizing place done with
  | nil => simp [decodeFrom]
  | cons c cs ih =>
    rw [List.flatMap_cons, decodeFrom_of_spells (spells_encodeChar c), ih, Char.ofNat_toNat]
    simp

theorem eq_encode_of_decodeFrom {bytes : List UInt8} {place : Nat} {done cs : List Char}
    (h : decodeFrom bytes place done = .ok cs) :
    ∃ read, cs = done.reverse ++ read ∧ bytes = read.flatMap String.utf8EncodeChar := by
  induction length : bytes.length using Nat.strongRecOn
    generalizing bytes place done with | ind total ih =>
  match bytes, h with
  | [], h =>
    rw [decodeFrom] at h
    cases h
    exact ⟨[], by simp⟩
  | b :: rest, h =>
    obtain ⟨form, n, rest', place', cut, spells, h⟩ := exists_spells_of_decodeFrom h
    have shorter : rest'.length < total := by
      have nonempty := List.length_pos_iff.mpr spells.ne_nil
      rw [cut, List.length_append] at length
      omega
    obtain ⟨read, rfl, rfl⟩ := ih _ shorter h rfl
    refine ⟨Char.ofNat n :: read, by simp, ?_⟩
    rw [List.flatMap_cons, encodeChar_of_spells (spells.toNat_ofNat.symm ▸ spells), cut]

theorem encode_ofList (cs : List Char) :
    encode (String.ofList cs) = cs.flatMap String.utf8EncodeChar :=
  List.toList_data_toByteArray

/-- Bytes are read as a text if and only if they are the ones that spell it. -/
theorem decode_eq_ok_iff {bytes : List UInt8} {cs : List Char} :
    decode bytes = .ok cs ↔ bytes = encode (String.ofList cs) := by
  rw [encode_ofList]
  constructor
  · intro h
    obtain ⟨read, rfl, spelt⟩ := eq_encode_of_decodeFrom h
    simpa using spelt
  · rintro rfl
    simpa [decode] using decodeFrom_encode cs 0 []

@[simp] theorem decode_encode (text : String) : decode (encode text) = .ok text.toList :=
  decode_eq_ok_iff.mpr (by rw [String.ofList_toList])

end Toolsmith.Text.Utf8
