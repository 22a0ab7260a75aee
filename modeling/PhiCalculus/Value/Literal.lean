import PhiCalculus.Number.Integer
import PhiCalculus.Text.Blank
import PhiCalculus.Text.Escape
import PhiCalculus.Value

/-!
# Literals

The text of a literal is read according to its type.  Numbers, truth values and bytes may have
blanks around them; strings and characters are taken as they are, with their escapes decoded.
-/

set_option autoImplicit false

namespace PhiCalculus

/-- Why the text of a literal was refused. -/
inductive LiteralFault where
  | integer (fault : Number.IntegerFault)
  | real (fault : Number.RealFault)
  | notTruthValue (text : String)
  | notOneCharacter
  | notByte (part : String)
  | notPattern
  | array
  deriving Repr, DecidableEq

def LiteralFault.message : LiteralFault → String
  | .integer fault => fault.message
  | .real fault => fault.message
  | .notTruthValue text => "'" ++ text ++ "' is neither true nor false"
  | .notOneCharacter => "a char literal holds exactly one character"
  | .notByte part => "'" ++ part ++ "' is not a hex byte"
  | .notPattern => "Invalid regex pattern: no regular expression within the limits"
  | .array => "arrays have no literal form"

namespace Value

/-- Whether a character stands between bytes. -/
def isByteSeparator (c : Char) : Bool := c == '-' || Text.isBlank c

/-- The parts of a text between separators, without the empty ones; `part` is the part being read,
in reverse. -/
def byteParts (part : List Char) : List Char → List (List Char)
  | [] => if part.isEmpty then [] else [part.reverse]
  | c :: rest =>
    if isByteSeparator c then
      if part.isEmpty then byteParts [] rest else part.reverse :: byteParts [] rest
    else byteParts (c :: part) rest

/-- Reads one byte in hexadecimal. -/
def readByte (part : List Char) : Except LiteralFault UInt8 :=
  match Number.readUnsigned 16 255 part with
  | .ok n => .ok (UInt8.ofNat n)
  | .error _ => .error (.notByte (String.ofList part))

/-- Reads bytes in order; the first part that is no byte is the fault. -/
def readBytes : List (List Char) → Except LiteralFault (List UInt8)
  | [] => .ok []
  | part :: rest =>
    match readByte part with
    | .error fault => .error fault
    | .ok b =>
      match readBytes rest with
      | .error fault => .error fault
      | .ok bs => .ok (b :: bs)

/-- Reads the text of a literal of the given type. -/
def parse (tag : TypeTag) (text : String) : Except LiteralFault Value :=
  match tag with
  | .int =>
    match Number.readInteger (Text.trim text.toList) with
    | .ok n => .ok (.int (Int64.ofInt n))
    | .error fault => .error (.integer fault)
  | .float =>
    match Number.readReal (Text.trim text.toList) with
    | .ok x => .ok (.float x)
    | .error fault => .error (.real fault)
  | .bool =>
    match String.ofList (Text.trim text.toList) with
    | "true" => .ok (.bool true)
    | "TRUE" => .ok (.bool true)
    | "false" => .ok (.bool false)
    | "FALSE" => .ok (.bool false)
    | other => .error (.notTruthValue other)
  | .char =>
    match Text.decodeEscapes text.toList with
    | [c] => .ok (.char c)
    | _ => .error .notOneCharacter
  | .string => .ok (.string (String.ofList (Text.decodeEscapes text.toList)))
  | .bytes => (readBytes (byteParts [] (Text.trim text.toList))).map .bytes
  | .regex =>
    match Pattern.ofText? text with
    | some p => .ok (.regex p)
    | none => .error .notPattern
  | .array => .error .array

end Value

end PhiCalculus
