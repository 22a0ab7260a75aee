import PhiCalculus.Number.Digits

/-!
# Integers

Signed integers of 64 bits, written in decimal with an optional sign, or in hexadecimal as `0x`
and digits with an optional minus sign before them.
-/

set_option autoImplicit false

namespace PhiCalculus.Number

/-- Why the text of an integer was refused. -/
inductive IntegerFault where
  | digits (fault : DigitFault)
  | signInHex (text : String)
  | doesNotFit (text : String)
  deriving Repr, DecidableEq

def IntegerFault.message : IntegerFault → String
  | .digits fault => fault.message
  | .signInHex text => "'" ++ text ++ "' is not a hex number"
  | .doesNotFit text => "'" ++ text ++ "' does not fit in an int"

/-- The magnitude of the least integer, one more than that of the greatest. -/
def integerBound : Nat := 0x8000000000000000

/-- The greatest magnitude that hexadecimal digits may spell before their number is compared with
the bounds of an integer. -/
def hexLimit : Nat := 0x7FFFFFFFFFFFFFFFFFFFFFFFFFFFFFFF

/-- Reads a decimal numeral with an optional sign. -/
def readDecimal : List Char → Except IntegerFault Int
  | [] => .error (.digits .empty)
  | '-' :: rest =>
    match readDigits 10 integerBound .tooSmall rest with
    | .ok n => .ok (-(n : Int))
    | .error fault => .error (.digits fault)
  | '+' :: rest =>
    match readDigits 10 (integerBound - 1) .tooLarge rest with
    | .ok n => .ok n
    | .error fault => .error (.digits fault)
  | cs =>
    match readDigits 10 (integerBound - 1) .tooLarge cs with
    | .ok n => .ok n
    | .error fault => .error (.digits fault)

/-- Reads the digits after `0x`; `text` is the whole literal. -/
def readHex (text : List Char) (negative : Bool) (hex : List Char) : Except IntegerFault Int :=
  match hex with
  | '+' :: _ | '-' :: _ => .error (.signInHex (String.ofList text))
  | [] => .error (.digits .empty)
  | _ =>
    match readDigits 16 hexLimit .tooLarge hex with
    | .error fault => .error (.digits fault)
    | .ok n =>
      if negative then
        if n ≤ integerBound then .ok (-(n : Int)) else .error (.doesNotFit (String.ofList text))
      else if n < integerBound then .ok n else .error (.doesNotFit (String.ofList text))

/-- Reads an integer from text without blanks around it. -/
def readInteger (text : List Char) : Except IntegerFault Int :=
  match text with
  | '-' :: '0' :: 'x' :: hex => readHex text true hex
  | '0' :: 'x' :: hex => readHex text false hex
  | _ => readDecimal text

end PhiCalculus.Number
