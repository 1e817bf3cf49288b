import Toolsmith.Base64
import Mathlib.Data.List.Basic
/-!
# Base64 read back

What has been written is read back (`decode_encode`), in a text without line breaks and in lines:
a line holds whole groups of three bytes, so the lines put together are the text
(`flatMap_encode_groups`).  A line has at most 76 characters, all of the alphabet or the padding.
-/

namespace Toolsmith.Base64

/-! ## 1. The alphabet -/

def alphabet : String := "ABCDEFGHIJKLMNOPQRSTUVWXYZabcdefghijklmnopqrstuvwxyz0123456789+/"

theorem toList_alphabet : alphabet.toList = (List.range 64).map digit := by decide +kernel

theorem value?_digit : ∀ {n : Nat}, n < 64 → value? (digit n) = some n := by decide

theorem digit_ne_pad : ∀ {n : Nat}, n < 64 → digit n ≠ '=' := by decide

theorem digit_mem_alphabet {n : Nat} (h : n < 64) : digit n ∈ alphabet.toList := by
  rw [toList_alphabet]
  exact List.mem_map_of_mem (List.mem_range.mpr h)

def Written (cs : List Char) : Prop := ∀ c ∈ cs, c ∈ alphabet.toList ∨ c = '='

theorem Written.forall {cs : List Char} (h : Written cs) {p : Char → Prop}
    (digits : ∀ n < 64, p (digit n)) (pad : p '=') : ∀ c ∈ cs, p c := by
  intro c hc
  rcases h c hc with data | rfl
  · rw [toList_alphabet] at data
    obtain ⟨n, hn, rfl⟩ := List.mem_map.mp data
    exact digits n (List.mem_range.mp hn)
  · exact pad

/-! ## 2. Reading what has been written -/

theorem decodeFrom_digit {n : Nat} (h : n < 64) {s : State} (unpadded : s.padded = false)
    (cs : List Char) : decodeFrom (digit n :: cs) s = decodeFrom cs (s.take n) := by
  rw [decodeFrom, if_neg (digit_ne_pad h), value?_digit h]
  dsimp only
  rw [unpadded]
  rfl

-- Two digits at the beginning of a group give a byte and four bits of the next.
theorem decodeFrom_first (a : UInt8) {low : Nat} (h : low < 16) (done : List UInt8)
    (cs : List Char) :
    decodeFrom (digit (a.toNat / 4) :: digit (a.toNat % 4 * 16 + low) :: cs)
        ⟨0, 0, 0, false, done⟩ = decodeFrom cs ⟨2, low, 0, false, a :: done⟩ := by
  have ha := a.toNat_lt
  have byte : a.toNat / 4 * 4 + (a.toNat % 4 * 16 + low) / 16 = a.toNat := by omega
  have carry : (a.toNat % 4 * 16 + low) % 16 = low := by omega
  rw [decodeFrom_digit (by omega) rfl, decodeFrom_digit (by omega) rfl]
  simp only [State.take, State.complete, byte, carry, UInt8.ofNat_toNat]

theorem decodeFrom_second (b : UInt8) {low : Nat} (h : low < 4) (done : List UInt8)
    (cs : List Char) :
    decodeFrom (digit (b.toNat % 16 * 4 + low) :: cs) ⟨2, b.toNat / 16, 0, false, done⟩ =
      decodeFrom cs ⟨3, low, 0, false, b :: done⟩ := by
  have hb := b.toNat_lt
  have byte : b.toNat / 16 * 16 + (b.toNat % 16 * 4 + low) / 4 = b.toNat := by omega
  have carry : (b.toNat % 16 * 4 + low) % 4 = low := by omega
  rw [decodeFrom_digit (by omega) rfl]
  simp only [State.take, State.complete, byte, carry, UInt8.ofNat_toNat]

theorem decodeFrom_third (c : UInt8) (done : List UInt8) (cs : List Char) :
    decodeFrom (digit (c.toNat % 64) :: cs) ⟨3, c.toNat / 64, 0, false, done⟩ =
      decodeFrom cs ⟨0, 0, 0, false, c :: done⟩ := by
  have byte : c.toNat / 64 * 64 + c.toNat % 64 = c.toNat := by omega
  rw [decodeFrom_digit (by omega) rfl]
  simp only [State.take, State.complete, byte, UInt8.ofNat_toNat]

theorem decodeFrom_encode (bytes done : List UInt8) :
    decodeFrom (encode bytes) ⟨0, 0, 0, false, done⟩ = .ok (done.reverse ++ bytes) := by
  induction bytes using encode.induct generalizing done with
  | case1 => simp [encode, decodeFrom]
  | case2 a =>
    have no_bits : 0 < 16 := by omega
    rw [encode]
    refine (decodeFrom_first a no_bits done ['=', '=']).trans ?_
    simp [decodeFrom, State.pad]
  | case3 a b =>
    have hb := b.toNat_lt
    rw [encode, decodeFrom_first a (by omega)]
    have no_bits : 0 < 4 := by omega
    refine (decodeFrom_second b no_bits (a :: done) ['=']).trans ?_
    simp [decodeFrom]
  | case4 a b c rest ih =>
    have hb := b.toNat_lt
    have hc := c.toNat_lt
    rw [encode, decodeFrom_first a (by omega), decodeFrom_second b (by omega), decodeFrom_third,
      ih]
    simp

theorem encode_ne_pad_cons (bytes : List UInt8) (cs : List Char) : encode bytes ≠ '=' :: cs := by
  cases bytes with
  | nil => exact List.cons_ne_nil _ _ ∘ Eq.symm
  | cons a rest =>
    have ha := a.toNat_lt
    have first : (encode (a :: rest)).head? = some (digit (a.toNat / 4)) := by
      rcases rest with _ | ⟨b, _ | ⟨c, rest⟩⟩ <;> rfl
    intro begins
    rw [begins] at first
    exact digit_ne_pad (by omega) (Option.some.inj first).symm

@[simp] theorem decode_encode (bytes : List UInt8) : decode (encode bytes) = .ok bytes := by
  unfold decode
  split
  next cs begins => exact absurd begins (encode_ne_pad_cons bytes cs)
  next => exact decodeFrom_encode bytes []

/-! ## 3. Lines -/

@[simp] theorem length_encode (bytes : List UInt8) :
    (encode bytes).length = (bytes.length + 2) / 3 * 4 := by
  induction bytes using encode.induct with
  | case1 => rfl
  | case2 a => simp [encode]
  | case3 a b => simp [encode]
  | case4 a b c rest ih =>
    simp only [encode, List.length_cons, ih]
    omega

theorem written_encode (bytes : List UInt8) : Written (encode bytes) := by
  have data {n : Nat} (h : n < 64) : digit n ∈ alphabet.toList ∨ digit n = '=' :=
    .inl (digit_mem_alphabet h)
  induction bytes using encode.induct with
  | case1 => exact List.forall_mem_nil _
  | case2 a =>
    have ha := a.toNat_lt
    simp only [Written, encode, List.forall_mem_cons]
    exact ⟨data (by omega), data (by omega), .inr trivial, .inr trivial, List.forall_mem_nil _⟩
  | case3 a b =>
    have ha := a.toNat_lt
    have hb := b.toNat_lt
    simp only [Written, encode, List.forall_mem_cons]
    exact ⟨data (by omega), data (by omega), data (by omega), .inr trivial, List.forall_mem_nil _⟩
  | case4 a b c rest ih =>
    have ha := a.toNat_lt
    have hb := b.toNat_lt
    have hc := c.toNat_lt
    simp only [Written, encode, List.forall_mem_cons]
    exact ⟨data (by omega), data (by omega), data (by omega), data (by omega), ih⟩

theorem encode_append {bytes : List UInt8} (whole : bytes.length % 3 = 0) (more : List UInt8) :
    encode (bytes ++ more) = encode bytes ++ encode more := by
  induction bytes using encode.induct with
  | case1 => rfl
  | case2 a => simp at whole
  | case3 a b => simp at whole
  | case4 a b c rest ih =>
    have rest_whole : rest.length % 3 = 0 := by
      simp only [List.length_cons] at whole
      omega
    simp only [List.cons_append, encode, ih rest_whole]

theorem length_le_of_mem_groups {bytes group : List UInt8} (h : group ∈ groups bytes) :
    group.length ≤ bytesPerLine := by
  induction bytes using groups.induct with
  | case1 => simp [groups] at h
  | case2 bytes nonempty ih =>
    rw [groups, dif_neg nonempty, List.mem_cons] at h
    rcases h with rfl | h
    · exact List.length_take_le _ _
    · exact ih h

theorem length_of_mem_dropLast_groups {bytes group : List UInt8}
    (h : group ∈ (groups bytes).dropLast) : group.length = bytesPerLine := by
  induction bytes using groups.induct with
  | case1 => simp [groups] at h
  | case2 bytes nonempty ih =>
    rw [groups, dif_neg nonempty] at h
    by_cases last : groups (bytes.drop bytesPerLine) = []
    · rw [last] at h
      cases h
    · rw [List.dropLast_cons_of_ne_nil last, List.mem_cons] at h
      rcases h with rfl | h
      · have more : bytes.drop bytesPerLine ≠ [] := by
          intro empty
          rw [empty] at last
          exact last (by rw [groups, dif_pos rfl])
        rw [List.length_take, Nat.min_eq_left]
        by_contra short
        exact more (List.drop_of_length_le (by omega))
      · exact ih h

/-- The lines put together are the text without line breaks. -/
theorem flatMap_encode_groups (bytes : List UInt8) :
    (groups bytes).flatMap encode = encode bytes := by
  induction bytes using groups.induct with
  | case1 => simp [groups, encode]
  | case2 bytes nonempty ih =>
    rw [groups, dif_neg nonempty, List.flatMap_cons, ih]
    by_cases short : bytes.length ≤ bytesPerLine
    · rw [List.take_of_length_le short, List.drop_of_length_le short]
      exact List.append_nil _
    · have whole : (bytes.take bytesPerLine).length % 3 = 0 := by
        rw [List.length_take, Nat.min_eq_left (by omega)]
        rfl
      rw [← encode_append whole, List.take_append_drop]

end Toolsmith.Base64
