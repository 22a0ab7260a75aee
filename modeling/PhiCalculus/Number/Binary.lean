/-!
# Binary floating-point numbers

A finite number in the 64-bit binary format is `m · 2^q` for natural `m` below `2^53` and an
exponent `q` of at least -1074.  This module takes such numbers apart and finds the one nearest to
a fraction, an exact tie going to the even significand.
-/

set_option autoImplicit false

namespace PhiCalculus.Number

/-- The significand and the exponent of a finite number that is not negative. -/
structure Binary where
  significand : Nat
  exponent : Int
  deriving Repr, DecidableEq

/-- The least significand of a normal number, `2^52`: its leading bit is not stored. -/
def hiddenBit : Nat := 0x10000000000000

/-- The bit that holds the sign, `2^63`. -/
def signBit : Nat := 0x8000000000000000

/-- The least exponent. -/
def leastExponent : Int := -1074

/-- The significand and exponent of the magnitude of a finite number. -/
def Binary.ofFloat (x : Float) : Binary :=
  let bits : Nat := x.toBits.toNat % signBit
  let field : Nat := bits / hiddenBit
  let fraction : Nat := bits % hiddenBit
  if field == 0 then ⟨fraction, leastExponent⟩
  else ⟨fraction + hiddenBit, (field : Int) - 1075⟩

/-- The positive number with the given significand and exponent; infinite when it is too great. -/
def Binary.toFloat (b : Binary) : Float :=
  if b.significand < hiddenBit then Float.ofBits (UInt64.ofNat b.significand)
  else
    let field := (b.exponent + 1075).toNat
    if 2047 ≤ field then Float.ofBits (UInt64.ofNat (2047 * hiddenBit))
    else Float.ofBits (UInt64.ofNat (field * hiddenBit + (b.significand - hiddenBit)))

/-- The quotient rounded to the nearest natural number, a tie going to the even one. -/
def divNearest (n d : Nat) : Nat :=
  let q := n / d
  let r := n % d
  if d < 2 * r || (2 * r == d && q % 2 == 1) then q + 1 else q

/-- The exponent that gives the quotient a significand of 53 bits, or the least exponent. -/
def exponentFor (n d : Nat) : Int :=
  let guess : Int := (n.log2 : Int) - (d.log2 : Int) - 52
  -- the quotient lies between 2^(guess + 51) and 2^(guess + 53)
  let small :=
    if 0 ≤ guess then n < d * (hiddenBit * Nat.pow 2 guess.toNat)
    else n * Nat.pow 2 (-guess).toNat < d * hiddenBit
  max leastExponent (if small then guess - 1 else guess)

/-- The number nearest to the fraction `n / d`, for a positive `d`. -/
def Binary.nearest (n d : Nat) : Binary :=
  if n == 0 then ⟨0, leastExponent⟩
  else
    let q := exponentFor n d
    let m :=
      if 0 ≤ q then divNearest n (d * Nat.pow 2 q.toNat)
      else divNearest (n * Nat.pow 2 (-q).toNat) d
    if m == 2 * hiddenBit then ⟨hiddenBit, q + 1⟩ else ⟨m, q⟩

/-- The number nearest to the fraction `n / d` times a power of two, for a positive `d`. -/
def Binary.nearestShifted (n d : Nat) (shift : Int) : Binary :=
  if 0 ≤ shift then nearest (n * Nat.pow 2 shift.toNat) d
  else nearest n (d * Nat.pow 2 (-shift).toNat)

/-- The number nearest to the product. -/
def Binary.product (a b : Binary) : Binary :=
  nearestShifted (a.significand * b.significand) 1 (a.exponent + b.exponent)

/-- The number nearest to the quotient, for a positive divisor. -/
def Binary.quotient (a b : Binary) : Binary :=
  nearestShifted a.significand b.significand (a.exponent - b.exponent)

/-- Whether the exponent is one that a finite number can have. -/
def Binary.isFinite (b : Binary) : Bool := b.exponent + 1075 < 2047

end PhiCalculus.Number
