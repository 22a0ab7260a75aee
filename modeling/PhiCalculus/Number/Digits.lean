/-!
# Numerals

Reading a run of digits in some radix, below some limit.  Reading goes from the left and stops at
the first character that is no digit, or the first digit that takes the number over the limit;
of the two at one character, the former is reported.
-/

set_option autoImplicit false

namespace PhiCalculus.Number

/-- Why a numeral was refused. -/
inductive DigitFault where
  | empty
  | invalidDigit
  | tooLarge
  | tooSmall
  deriving Repr, DecidableEq

def DigitFault.message : DigitFault → String
  | .empty => "cannot parse integer from empty string"
  | .invalidDigit => "invalid digit found in string"
  | .tooLarge => "number too large to fit in target type"
  | .tooSmall => "number too small to fit in target type"

/-- The value of a character as a digit: decimal digits, then letters of either case. -/
def digitValue (c : Char) : Option Nat :=
  let n := c.toNat
  if 48 ≤ n && n ≤ 57 then some (n - 48)
  else if 97 ≤ n && n ≤ 122 then some (n - 87)
  else if 65 ≤ n && n ≤ 90 then some (n - 55)
  else none

/-- The value of a character as a digit of the radix. -/
def digit? (radix : Nat) (c : Char) : Option Nat :=
  match digitValue c with
  | some d => if d < radix then some d else none
  | none => none

/-- Reads the digits that follow a number already read; `excess` is the fault of a number above the
limit. -/
def readFrom (radix limit : Nat) (excess : DigitFault) (acc : Nat) :
    List Char → Except DigitFault Nat
  | [] => .ok acc
  | c :: rest =>
    match digit? radix c with
    | none => .error .invalidDigit
    | some d =>
      if limit < acc * radix + d then .error excess
      else readFrom radix limit excess (acc * radix + d) rest

/-- Reads one or more digits without a sign. -/
def readDigits (radix limit : Nat) (excess : DigitFault) : List Char → Except DigitFault Nat
  | [] => .error .invalidDigit
  | cs => readFrom radix limit excess 0 cs

/-- Reads a number that may carry a plus sign. -/
def readUnsigned (radix limit : Nat) : List Char → Except DigitFault Nat
  | [] => .error .empty
  | '+' :: rest => readDigits radix limit .tooLarge rest
  | cs => readDigits radix limit .tooLarge cs

end PhiCalculus.Number
