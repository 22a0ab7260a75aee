/-!
# Escapes in literals

The text of a string or character literal may hold the escapes `\n`, `\r`, `\t` and `\\`.  They
are decoded in one pass from the left; a backslash before anything else, or at the end, stands for
itself.
-/

set_option autoImplicit false

namespace PhiCalculus.Text

/-- The text that a literal denotes. -/
def decodeEscapes : List Char → List Char
  | '\\' :: 'n' :: rest => '\n' :: decodeEscapes rest
  | '\\' :: 'r' :: rest => '\r' :: decodeEscapes rest
  | '\\' :: 't' :: rest => '\t' :: decodeEscapes rest
  | '\\' :: '\\' :: rest => '\\' :: decodeEscapes rest
  | '\\' :: c :: rest => '\\' :: c :: decodeEscapes rest
  | c :: rest => c :: decodeEscapes rest
  | [] => []

/-- A literal text that denotes the given text. -/
def encodeEscapes : List Char → List Char
  | [] => []
  | c :: rest =>
    if c == '\\' then '\\' :: '\\' :: encodeEscapes rest
    else if c == '\n' then '\\' :: 'n' :: encodeEscapes rest
    else if c == '\r' then '\\' :: 'r' :: encodeEscapes rest
    else if c == '\t' then '\\' :: 't' :: encodeEscapes rest
    else c :: encodeEscapes rest

end PhiCalculus.Text
