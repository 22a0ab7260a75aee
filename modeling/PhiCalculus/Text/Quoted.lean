import PhiCalculus.Text.Unshown

/-!
# Quoted text

Strings and characters are shown in quotes: a few escapes by letter, the closing quote and the
backslash by a backslash, and every character that cannot be seen on its own by its number in
hexadecimal, as in `\u{301}`.
-/

set_option autoImplicit false

namespace PhiCalculus.Text

/-- The digits of a number in lower-case hexadecimal. -/
def hexDigits (n : Nat) : List Char := Nat.toDigits 16 n

/-- A character by its number. -/
def byNumber (c : Char) : List Char :=
  ['\\', 'u', '\x7b'] ++ hexDigits c.toNat ++ ['\x7d']

/-- A character as it stands between quotes of the given kind. -/
def quotedChar (quote c : Char) : List Char :=
  if c == '\n' then ['\\', 'n']
  else if c == '\t' then ['\\', 't']
  else if c == '\r' then ['\\', 'r']
  else if c == '\x00' then ['\\', '0']
  else if c == '\\' || c == quote then ['\\', c]
  else if 0x20 ≤ c.toNat && c.toNat < 0x7F then [c]
  else if unshown.contains c.toNat then byNumber c
  else [c]

/-- The text between quotes of the given kind. -/
def quoted (quote : Char) (cs : List Char) : String :=
  String.ofList ([quote] ++ cs.flatMap (quotedChar quote) ++ [quote])

/-- A string in double quotes. -/
def quoteString (s : String) : String := quoted '"' s.toList

/-- A character in single quotes. -/
def quoteChar (c : Char) : String := quoted '\'' [c]

end PhiCalculus.Text
