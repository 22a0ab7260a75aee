import PhiCalculus.Number.Binary

/-!
# The fewest digits that read back

Of all decimal numerals that are nearer to a binary number than to its two neighbours, the
shortest are the ones to write, and of those the nearest.  On the grid of numerals with a given
number of digits only the two neighbours of the number itself have to be tried: if any point of
the grid reads back, so does one of them.
-/

set_option autoImplicit false

namespace PhiCalculus.Number

/-- A decimal number `0.d₁d₂… · 10^point` by its digits. -/
structure Decimal where
  digits : List Char
  point : Int
  deriving Repr, DecidableEq

/-- The fractions that read back as a given number, over one denominator: from `low` to `high`,
ends included or not, with the number itself at `mid`. -/
structure ReadBack where
  low : Nat
  mid : Nat
  high : Nat
  denom : Nat
  closed : Bool
  deriving Repr, DecidableEq

/-- The interval of fractions that read back as the number. -/
def ReadBack.of (b : Binary) : ReadBack :=
  let up := Nat.pow 2 b.exponent.toNat
  let down := Nat.pow 2 (-b.exponent).toNat
  let below := if b.significand == hiddenBit && leastExponent < b.exponent then 1 else 2
  { low := (4 * b.significand - below) * up
    mid := 4 * b.significand * up
    high := (4 * b.significand + 2) * up
    denom := 4 * down
    closed := b.significand % 2 == 0 }

/-- Whether the fraction `n / d` reads back. -/
def ReadBack.holds (r : ReadBack) (n d : Nat) : Bool :=
  if r.closed then r.low * d ≤ n * r.denom && n * r.denom ≤ r.high * d
  else r.low * d < n * r.denom && n * r.denom < r.high * d

/-- The number of decimal places before the first digit of a fraction below one. -/
def leadingPlaces (n d : Nat) : Nat → Nat
  | 0 => 0
  | fuel + 1 => if n < d then leadingPlaces (n * 10) d fuel + 1 else 0

/-- The power of ten of the first digit of the fraction `n / d`. -/
def decimalExponent (n d : Nat) : Int :=
  if d ≤ n then ((Nat.toDigits 10 (n / d)).length : Int) - 1
  else -(leadingPlaces n d 400 : Int)

/-- The point nearest to the number on the grid of multiples of `10^step`, if it reads back; an
exact tie goes up. -/
def nearestOn (r : ReadBack) (step : Int) : Option Nat :=
  let up := Nat.pow 10 step.toNat
  let down := Nat.pow 10 (-step).toNat
  let floor := r.mid * down / (r.denom * up)
  let rest := r.mid * down % (r.denom * up)
  let fits (k : Nat) := r.holds (k * up) down
  let upper := r.denom * up ≤ 2 * rest
  if upper && fits (floor + 1) then some (floor + 1)
  else if fits floor then some floor
  else if fits (floor + 1) then some (floor + 1)
  else none

/-- Tries the grids with one more digit each, from the exponent of the first digit down. -/
def firstGrid (r : ReadBack) (exponent : Int) (digits : Nat) : Nat → Nat × Int
  | 0 => (0, 0)
  | fuel + 1 =>
    let step := exponent - digits
    match nearestOn r step with
    | some n => (n, step)
    | none => firstGrid r exponent (digits + 1) fuel

/-- The digits without the zeros at their end. -/
def dropZeros (ds : List Char) : List Char :=
  (ds.reverse.dropWhile (· == '0')).reverse

/-- The shortest decimal number that reads back as a positive binary number. -/
def shortest (b : Binary) : Decimal :=
  let r := ReadBack.of b
  let (n, step) := firstGrid r (decimalExponent r.mid r.denom) 0 17
  let digits := Nat.toDigits 10 n
  ⟨dropZeros digits, step + digits.length⟩

end PhiCalculus.Number
