import PhiCalculus.Json
import PhiCalculus.Number.Real

/-!
# Writing JSON

JSON values are written without blanks.  Strings escape what must be escaped: quotes, backslashes
and control characters.
-/

set_option autoImplicit false

namespace PhiCalculus.Json

/-- A digit in lower-case hexadecimal. -/
def hexDigit (n : Nat) : Char := if n < 10 then Char.ofNat (48 + n) else Char.ofNat (87 + n)

/-- A character inside a string. -/
def escaped (c : Char) : List Char :=
  if c == '"' then ['\\', '"']
  else if c == '\\' then ['\\', '\\']
  else if c == '\n' then ['\\', 'n']
  else if c == '\r' then ['\\', 'r']
  else if c == '\t' then ['\\', 't']
  else if c == '\x08' then ['\\', 'b']
  else if c == '\x0c' then ['\\', 'f']
  else if c.toNat < 0x20 then
    ['\\', 'u', '0', '0', hexDigit (c.toNat / 16), hexDigit (c.toNat % 16)]
  else [c]

/-- A string in quotes. -/
def writeString (s : String) : String :=
  "\"" ++ s.foldl (fun out c => (escaped c).foldl String.push out) "" ++ "\""

mutual

/-- A value as text. -/
def write : Json → String
  | null => "null"
  | bool b => if b then "true" else "false"
  | natural n => toString n
  | negative n => toString n
  | real x => Number.writeReal x
  | string s => writeString s
  | array items => "[" ++ writeItems items ++ "]"
  | object members => "\x7b" ++ writeMembers members ++ "\x7d"

/-- The elements of an array, with commas between them. -/
def writeItems : List Json → String
  | [] => ""
  | [item] => write item
  | item :: rest => write item ++ "," ++ writeItems rest

/-- The members of an object, with commas between them. -/
def writeMembers : List (String × Json) → String
  | [] => ""
  | [(name, v)] => writeString name ++ ":" ++ write v
  | (name, v) :: rest => writeString name ++ ":" ++ write v ++ "," ++ writeMembers rest

end

end PhiCalculus.Json
