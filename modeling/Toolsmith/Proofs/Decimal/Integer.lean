import Mathlib.Data.Nat.Digits.Lemmas
import Toolsmith.Decimal.Integer
/-!
# The size of integers

A row of digits denotes its number in base ten (`ofDigits_eq`).  Without a zero in front, the size
of the number tells how many digits the row has (`ofDigits_lt_iff`).
-/

namespace Toolsmith.Decimal

theorem ofDigits_eq (values : List Nat) :
    ofDigits values = Nat.ofDigits 10 values.reverse := by
  rw [Nat.ofDigits_eq_foldr, List.foldr_reverse, ofDigits]
  congr 1
  funext n d
  show n * 10 + d = d + 10 * n
  omega

theorem isDigit_iff {c : Char} : c.isDigit = true ↔ 48 ≤ c.toNat ∧ c.toNat ≤ 57 := by
  simp only [Char.isDigit, Bool.and_eq_true, decide_eq_true_eq]
  exact Iff.rfl

theorem digitValue_lt {c : Char} (digit : c.isDigit = true) : digitValue c < 10 := by
  have := isDigit_iff.mp digit
  unfold digitValue
  omega

theorem digitValue_ne_zero {c : Char} (digit : c.isDigit = true) (nonzero : c ≠ '0') :
    digitValue c ≠ 0 := by
  have := isDigit_iff.mp digit
  have : c.toNat ≠ 48 := fun same => nonzero (Char.toNat_inj.mp same)
  unfold digitValue
  omega

theorem ofDigits_lt_iff {c : Char} {row : List Char} (digits : (c :: row).all Char.isDigit = true)
    (nonzero : c ≠ '0') {k : Nat} :
    ofDigits ((c :: row).map digitValue) < 10 ^ k ↔ (c :: row).length ≤ k := by
  have digit : ∀ d ∈ c :: row, d.isDigit = true := List.all_eq_true.mp digits
  have high : ofDigits ((c :: row).map digitValue) < 10 ^ (c :: row).length := by
    have small : ∀ d ∈ ((c :: row).map digitValue).reverse, d < 10 := by
      simp only [List.mem_reverse, List.forall_mem_map]
      exact fun d hd => digitValue_lt (digit d hd)
    rw [ofDigits_eq]
    simpa using Nat.ofDigits_lt_base_pow_length (by decide) small
  have low : 10 ^ row.length ≤ ofDigits ((c :: row).map digitValue) := by
    have leading := digitValue_ne_zero (digit c List.mem_cons_self) nonzero
    have nonempty : ((c :: row).map digitValue).reverse ≠ [] := by simp
    have bound : 10 ^ ((c :: row).map digitValue).reverse.length ≤
        10 * Nat.ofDigits 10 ((c :: row).map digitValue).reverse :=
      Nat.pow_length_le_mul_ofDigits (b := 8) nonempty (by simpa using leading)
    rw [← ofDigits_eq, List.length_reverse, List.length_map, List.length_cons, pow_succ] at bound
    omega
  constructor
  · intro small
    exact (Nat.pow_lt_pow_iff_right (by decide)).mp (low.trans_lt small)
  · intro short
    exact high.trans_le (Nat.pow_le_pow_right (by decide) short)

end Toolsmith.Decimal
