/-!
# Numbers of 64 bits

A floating-point number of 64 bits as a value: a sign, and a whole mantissa times a power of two.
`ofDecimal` takes the number nearest to a decimal; of two that are equally near the one with the
even mantissa.
-/

namespace Toolsmith.Decimal

/-- A floating-point number.  A finite one is `mantissa * 2 ^ exponent` with its sign; the
mantissa has 53 binary digits unless the exponent is the least one, -1074. -/
inductive Binary64
  | finite (negative : Bool) (mantissa : Nat) (exponent : Int)
  | infinite (negative : Bool)
  | notANumber
  deriving DecidableEq, Repr

namespace Binary64

/-- A quotient rounded to the nearest whole number, a tie to the even one. -/
def roundQuotient (num den : Nat) : Nat :=
  let q := num / den
  let r := num % den
  if 2 * r > den ∨ (2 * r = den ∧ q % 2 = 1) then q + 1 else q

def scaleDown (num den : Nat) (exponent : Int) : Nat × Nat :=
  if exponent ≥ 0 then (num, den * Nat.pow 2 exponent.toNat)
  else (num * Nat.pow 2 (-exponent).toNat, den)

def ofFraction (negative : Bool) (num den : Nat) : Binary64 :=
  let guess := max (-1074) ((num.log2 : Int) - den.log2 - 53)
  let scaled := scaleDown num den guess
  let exponent := if scaled.1 / scaled.2 ≥ Nat.pow 2 53 then guess + 1 else guess
  let scaled := scaleDown num den exponent
  let mantissa := roundQuotient scaled.1 scaled.2
  let (mantissa, exponent) :=
    if mantissa = Nat.pow 2 53 then (Nat.pow 2 52, exponent + 1) else (mantissa, exponent)
  if exponent > 971 then .infinite negative else .finite negative mantissa exponent

/-- The number nearest to `digits * 10 ^ scale`.  Decimals far outside the range are decided by
the place of their leading digit. -/
def ofDecimal (negative : Bool) (digits : Nat) (scale : Int) : Binary64 :=
  if digits = 0 then .finite negative 0 (-1074)
  else
    let place := ((Nat.toDigits 10 digits).length : Int) + scale
    if place > 310 then .infinite negative
    else if place < -330 then .finite negative 0 (-1074)
    else if scale ≥ 0 then ofFraction negative (digits * Nat.pow 10 scale.toNat) 1
    else ofFraction negative digits (Nat.pow 10 (-scale).toNat)

end Binary64

end Toolsmith.Decimal
