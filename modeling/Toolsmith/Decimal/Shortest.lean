import Toolsmith.Decimal.Binary64
/-!
# Shortest decimals

The text of a floating-point number is the decimal of fewest digits that reads back as the same
number; of two such decimals the nearer one, of two equally near the one with the even last
digit.  Decimals between 0.0001 and 10^16 are written out in full with at least one place, the
others with an exponent of at least two digits.
-/

namespace Toolsmith.Decimal

/-- A positive number between two bounds, all in units of one small power of two over a common
denominator: the reals that read back as `value / den` lie between `low` and `high`, which belong
to them if `closed`. -/
structure Neighbourhood where
  low : Nat
  value : Nat
  high : Nat
  den : Nat
  closed : Bool
  deriving Repr

namespace Neighbourhood

/-- The reals that round to a positive finite number.  Below a power of two the next number is
only half as far away as above it. -/
def ofBinary (mantissa : Nat) (exponent : Int) : Neighbourhood :=
  let narrow := mantissa = Nat.pow 2 52 ∧ exponent > -1074
  let below := if narrow then 1 else 2
  let shift := exponent - 2
  let up := Nat.pow 2 shift.toNat
  { low := (4 * mantissa - below) * up
    value := 4 * mantissa * up
    high := (4 * mantissa + 2) * up
    den := Nat.pow 2 (-shift).toNat
    closed := mantissa % 2 = 0 }

def contains (r : Neighbourhood) (n : Nat) : Bool :=
  if r.closed then r.low ≤ n && n ≤ r.high else r.low < n && n < r.high

end Neighbourhood

def reaches (value den : Nat) (place : Int) : Bool :=
  if place ≥ 0 then value ≥ den * Nat.pow 10 place.toNat
  else value * Nat.pow 10 (-place).toNat ≥ den

/-- The place of the decimal point: the least `place` with the number below `10 ^ place`, looked
for downwards from a bound that is large enough. -/
def pointPlace (value den : Nat) : Nat → Int → Int
  | 0, place => place
  | steps + 1, place =>
    if reaches value den (place - 1) then place else pointPlace value den steps (place - 1)

/-- The digits on the grid of `10 ^ unit` that read back, the nearer of the two neighbours first;
nothing if neither reads back. -/
def onGrid? (r : Neighbourhood) (unit : Int) : Option Nat :=
  -- A common denominator makes grid point `n` the whole number `n * step`.
  let step := if unit ≥ 0 then r.den * Nat.pow 10 unit.toNat else r.den
  let grow := if unit ≥ 0 then 1 else Nat.pow 10 (-unit).toNat
  let r : Neighbourhood :=
    { r with low := r.low * grow, value := r.value * grow, high := r.high * grow }
  let down := r.value / step
  let nearDown := r.value - down * step
  let nearUp := (down + 1) * step - r.value
  let downFits := r.contains (down * step)
  let upFits := r.contains ((down + 1) * step)
  if downFits && upFits then
    if nearDown < nearUp then some down
    else if nearUp < nearDown then some (down + 1)
    else some (if down % 2 = 0 then down else down + 1)
  else if downFits then some down
  else if upFits then some (down + 1)
  else none

/-- The fewest digits that read back: `count` digits are tried, then one more, up to seventeen. -/
def fewest (r : Neighbourhood) (place : Int) : Nat → Nat → Nat × Int
  | 0, count => (0, place - count)
  | tries + 1, count =>
    match onGrid? r (place - count) with
    | some digits => (digits, place - count)
    | none => fewest r place tries (count + 1)

def shortest (mantissa : Nat) (exponent : Int) : Nat × Int :=
  let r := Neighbourhood.ofBinary mantissa exponent
  fewest r (pointPlace r.value r.den 700 310) 18 1

/-- Digits without trailing zeros, and the place of the decimal point in front of or behind
them. -/
def layout (digits : Nat) (unit : Int) : List Char × Int :=
  let written := Nat.toDigits 10 digits
  let kept := (written.reverse.dropWhile (· = '0')).reverse
  (kept, (written.length : Int) + unit)

def exponentText (e : Int) : List Char :=
  let digits := Nat.toDigits 10 e.natAbs
  'e' :: (if e < 0 then '-' else '+') :: (if digits.length < 2 then '0' :: digits else digits)

/-- Digits written with the point at a place: out in full for the places -3 to 16, else with an
exponent. -/
def withPoint (digits : List Char) (place : Int) : List Char :=
  if place > 16 ∨ place ≤ -4 then
    match digits with
    | [] => []
    | d :: [] => d :: exponentText (place - 1)
    | d :: rest => d :: '.' :: rest ++ exponentText (place - 1)
  else if place ≤ 0 then '0' :: '.' :: List.replicate (-place).toNat '0' ++ digits
  else
    let whole := digits.take place.toNat
    let zeros := List.replicate (place.toNat - digits.length) '0'
    match digits.drop place.toNat with
    | [] => whole ++ zeros ++ ['.', '0']
    | rest => whole ++ '.' :: rest

def Binary64.text : Binary64 → String
  | .notANumber => "nan"
  | .infinite negative => if negative then "-inf" else "inf"
  | .finite negative mantissa exponent =>
    let digits :=
      if mantissa = 0 then ['0', '.', '0']
      else
        let (n, unit) := shortest mantissa exponent
        let (written, place) := layout n unit
        withPoint written place
    String.ofList (if negative then '-' :: digits else digits)

end Toolsmith.Decimal
