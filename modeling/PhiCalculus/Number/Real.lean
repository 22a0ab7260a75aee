import PhiCalculus.Number.Digits
import PhiCalculus.Number.Shortest

/-!
# Real numbers as text

Floating-point numbers are written with the fewest digits that read back, positionally when the
first digit stands for 10^-4 up to 10^15 and with an exponent otherwise.  They are read from a
decimal numeral with an optional point and exponent, or from a name of infinity or of no number.
-/

set_option autoImplicit false

namespace PhiCalculus.Number

/-! ## Writing -/

/-- A decimal number written with all its places; a whole number still shows one decimal. -/
def positional (d : Decimal) : List Char :=
  if d.point ≤ 0 then ['0', '.'] ++ List.replicate (-d.point).toNat '0' ++ d.digits
  else
    let places := d.point.toNat
    if d.digits.length ≤ places then
      d.digits ++ List.replicate (places - d.digits.length) '0' ++ ['.', '0']
    else d.digits.take places ++ ['.'] ++ d.digits.drop places

/-- A decimal number written with one digit before the point and a power of ten. -/
def scientific (d : Decimal) : List Char :=
  let fraction := match d.digits.drop 1 with
    | [] => []
    | rest => '.' :: rest
  d.digits.take 1 ++ fraction ++ ['e'] ++ (toString (d.point - 1)).toList

/-- Whether the first digit is in the span of exponents that is written positionally. -/
def isPositional (d : Decimal) : Bool :=
  -4 ≤ d.point - 1 && d.point - 1 ≤ 15

/-- A real number as text. -/
def writeReal (x : Float) : String :=
  if x.isNaN then "NaN"
  else
    let sign := if signBit ≤ x.toBits.toNat then ['-'] else []
    let magnitude :=
      if x.isInf then ['i', 'n', 'f']
      else if x == 0.0 then ['0', '.', '0']
      else
        let d := shortest (Binary.ofFloat x)
        if isPositional d then positional d else scientific d
    String.ofList (sign ++ magnitude)

/-! ## Reading -/

/-- Why the text of a real number was refused. -/
inductive RealFault where
  | empty
  | invalid
  deriving Repr, DecidableEq

def RealFault.message : RealFault → String
  | .empty => "cannot parse float from empty string"
  | .invalid => "invalid float literal"

/-- Whether a character is one of the ten decimal digits. -/
def isDecimal (c : Char) : Bool := 48 ≤ c.toNat && c.toNat ≤ 57

/-- The number that decimal digits spell, continuing from `acc`. -/
def decimalValue (acc : Nat) : List Char → Nat
  | [] => acc
  | c :: rest => decimalValue (acc * 10 + (c.toNat - 48)) rest

/-- The binary number nearest to `n · 10^exponent`.  Exponents far outside the range of binary
numbers are decided without computing the power. -/
def nearestScaled (n : Nat) (exponent : Int) : Float :=
  if n == 0 then 0.0
  else
    let point := exponent + (Nat.toDigits 10 n).length
    if 400 < point then Float.ofBits 0x7FF0000000000000
    else if point < -400 then 0.0
    else if 0 ≤ exponent then (Binary.nearest (n * Nat.pow 10 exponent.toNat) 1).toFloat
    else (Binary.nearest n (Nat.pow 10 (-exponent).toNat)).toFloat

/-- Reads the exponent after its mark: an optional sign and at least one digit. -/
def readExponent (cs : List Char) : Option Int :=
  let (negative, digits) := match cs with
    | '-' :: rest => (true, rest)
    | '+' :: rest => (false, rest)
    | _ => (false, cs)
  if digits.isEmpty || !digits.all isDecimal then none
  else
    let n : Int := decimalValue 0 digits
    some (if negative then -n else n)

/-- Reads a numeral without a sign. -/
def readMagnitude (cs : List Char) : Option Float :=
  let whole := cs.takeWhile isDecimal
  let afterWhole := cs.dropWhile isDecimal
  let (fraction, rest) := match afterWhole with
    | '.' :: more => (more.takeWhile isDecimal, more.dropWhile isDecimal)
    | _ => ([], afterWhole)
  if whole.isEmpty && fraction.isEmpty then none
  else
    let n := decimalValue 0 (whole ++ fraction)
    match rest with
    | [] => some (nearestScaled n (-(fraction.length : Int)))
    | c :: exponent =>
      if c == 'e' || c == 'E' then
        (readExponent exponent).map fun e => nearestScaled n (e - fraction.length)
      else none

/-- Reads a name of a number that has no numeral, in letters of either case. -/
def readName (cs : List Char) : Option Float :=
  let name := String.ofList (cs.map Char.toLower)
  if name == "inf" || name == "infinity" then some (Float.ofBits 0x7FF0000000000000)
  else if name == "nan" then some (Float.ofBits 0x7FF8000000000000)
  else none

/-- Reads a real number from text without blanks around it. -/
def readReal (cs : List Char) : Except RealFault Float :=
  let (negative, magnitude) := match cs with
    | '-' :: rest => (true, rest)
    | '+' :: rest => (false, rest)
    | _ => (false, cs)
  if cs.isEmpty then .error .empty
  else
    match (readMagnitude magnitude).orElse fun _ => readName magnitude with
    | some x => .ok (if negative then -x else x)
    | none => .error .invalid

end PhiCalculus.Number
