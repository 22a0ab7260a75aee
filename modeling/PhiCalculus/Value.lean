import PhiCalculus.Number.Real
import PhiCalculus.Pattern.Matching
import PhiCalculus.Text.Quoted

/-!
# Values

What dataization ends with: a number, a truth value, a character, text, bytes, a pattern or an
array of objects.  The elements of an array stay objects; they are referred to and not contained.

Every value but an array has a label, a text that is the same for equal values of one type.  Every
value has a term, which is how results and traces show it.
-/

set_option autoImplicit false

namespace PhiCalculus

/-! ## References -/

/-- Refers to an object of a store. -/
structure Ref where
  index : Nat
  deriving Repr, DecidableEq, Inhabited

/-- The identity of an object: equal vertices, equal objects. -/
structure Vertex where
  number : Nat
  deriving Repr, DecidableEq, Inhabited

/-- A vertex as it is shown. -/
def Vertex.text (v : Vertex) : String := "ν" ++ toString v.number

/-! ## Types -/

/-- The types of values. -/
inductive TypeTag where
  | int
  | float
  | bool
  | char
  | string
  | bytes
  | regex
  | array
  deriving Repr, DecidableEq

namespace TypeTag

/-- The name of a type in programs and messages. -/
def name : TypeTag → String
  | int => "int"
  | float => "float"
  | bool => "bool"
  | char => "char"
  | string => "string"
  | bytes => "bytes"
  | regex => "regex"
  | array => "array"

/-- The type of that name. -/
def ofName? : String → Option TypeTag
  | "int" => some int
  | "float" => some float
  | "bool" => some bool
  | "char" => some char
  | "string" => some string
  | "bytes" => some bytes
  | "regex" => some regex
  | "array" => some array
  | _ => none

theorem ofName?_name (t : TypeTag) : ofName? t.name = some t := by
  cases t <;> rfl

end TypeTag

/-! ## Values -/

/-- A value. -/
inductive Value where
  | int (n : Int64)
  | float (x : Float)
  | bool (b : Bool)
  | char (c : Char)
  | string (s : String)
  | bytes (bs : List UInt8)
  | regex (p : Pattern)
  | array (items : List Ref)

namespace Value

def tag : Value → TypeTag
  | int _ => .int
  | float _ => .float
  | bool _ => .bool
  | char _ => .char
  | string _ => .string
  | bytes _ => .bytes
  | regex _ => .regex
  | array _ => .array

/-- An integer in decimal. -/
def integerText (n : Int64) : String := toString n.toInt

/-- A byte as two hexadecimal digits. -/
def byteText (b : UInt8) : List Char :=
  let digit (n : Nat) : Char := if n < 10 then Char.ofNat (48 + n) else Char.ofNat (55 + n)
  [digit (b.toNat / 16), digit (b.toNat % 16)]

/-- Bytes joined by dashes; two dashes when there are none. -/
def bytesText : List UInt8 → List Char
  | [] => ['-', '-']
  | [b] => byteText b
  | b :: rest => byteText b ++ '-' :: bytesText rest

/-- Texts in a list, with commas between them. -/
def commas (texts : List String) : String := String.intercalate ", " texts

def boolText (b : Bool) : String := if b then "true" else "false"

/-- The text that names the value among those of its type; an array has none. -/
def label : Value → Option String
  | int n => some (integerText n)
  | float x => some (Number.writeReal x)
  | bool b => some (boolText b)
  | char c => some (String.singleton c)
  | string s => some s
  | bytes bs => some ("[" ++ commas (bs.map fun b => toString b.toNat) ++ "]")
  | regex p => some p.text
  | array _ => none

/-- An array by the terms of its elements. -/
def arrayTerm (items : List String) : String := "*(" ++ commas items ++ ")"

/-- The term of a value, given the terms of its elements if it is an array. -/
def termOf (items : List String) : Value → String
  | int n => integerText n
  | float x => Number.writeReal x
  | bool b => if b then "TRUE" else "FALSE"
  | char c => Text.quoteChar c
  | string s => Text.quoteString s
  | bytes bs => String.ofList (bytesText bs)
  | regex p => "/" ++ p.text ++ "/"
  | array _ => arrayTerm items

/-- The elements of an array; other values have none. -/
def items : Value → List Ref
  | array refs => refs
  | _ => []

/-- The text of a value for its reader: text, characters and truth values bare, others by their
term. -/
def display (term : String) : Value → String
  | string s => s
  | char c => String.singleton c
  | bool b => boolText b
  | _ => term

/-- Whether two values are equal: of one type and the same, where numbers are compared as numbers
and the elements of arrays by their vertices. -/
def same (vertex : Ref → Vertex) : Value → Value → Bool
  | int a, int b => a == b
  | float a, float b => a == b
  | bool a, bool b => a == b
  | char a, char b => a == b
  | string a, string b => a == b
  | bytes a, bytes b => a == b
  | regex a, regex b => a.text == b.text
  | array a, array b => a.map vertex == b.map vertex
  | _, _ => false

end Value

end PhiCalculus
