import PhiCalculus.Text.CodeSet

/-!
# Sets of characters in UTF-8

In UTF-8 a character is a row of one to four bytes.  A set of characters falls into rows of byte
ranges: a character belongs to the set if its bytes lie, one by one, in the ranges of a row.  The
rows come in ascending order, and the bytes that rows have in common stand at their start.
-/

set_option autoImplicit false

namespace PhiCalculus.Text

/-- The bytes of a text. -/
def utf8Bytes (cs : List Char) : List UInt8 := cs.flatMap String.utf8EncodeChar

/-- A range of bytes, both ends included. -/
abbrev ByteRange := Nat × Nat

namespace Utf8

/-- The bytes that can continue a character. -/
def continuation : ByteRange := (0x80, 0xBF)

/-- The rows for the characters whose bytes after the first spell the numbers from `low` to `high`,
in so many digits of six bits; `mark` is what is added to the first digit of a row. -/
def rows (mark : Nat) : Nat → Nat → Nat → List (List ByteRange)
  | 0, low, high => [[(mark + low, mark + high)]]
  | n + 1, low, high =>
    let block := Nat.pow 64 (n + 1)
    let below (digit low high : Nat) :=
      (rows 0x80 n low high).map ((mark + digit, mark + digit) :: ·)
    let first := low / block
    let last := high / block
    if first == last then below first (low % block) (high % block)
    else
      let start := if low % block == 0 then [] else below first (low % block) (block - 1)
      let finish := if high % block == block - 1 then [] else below last 0 (high % block)
      let firstFull := if low % block == 0 then first else first + 1
      let endFull := if high % block == block - 1 then last + 1 else last
      let full :=
        if firstFull < endFull then
          [(mark + firstFull, mark + endFull - 1) :: List.replicate (n + 1) continuation]
        else []
      start ++ full ++ finish

/-- The spans of code points that take the same number of bytes, without the ones that are no
characters: the mark of the first byte, the number of bytes after it and the ends of the span. -/
def spans : List (Nat × Nat × Nat × Nat) :=
  [(0, 0, 0, 0x7F), (0xC0, 1, 0x80, 0x7FF), (0xE0, 2, 0x800, 0xD7FF), (0xE0, 2, 0xE000, 0xFFFF),
    (0xF0, 3, 0x10000, lastCode)]

/-- The rows of a range of code points. -/
def rowsOf (range : Nat × Nat) : List (List ByteRange) :=
  spans.flatMap fun (mark, following, low, high) =>
    if max low range.1 ≤ min high range.2 then
      rows mark following (max low range.1) (min high range.2)
    else []

end Utf8

/-- The rows of a set. -/
def CodeSet.utf8 (s : CodeSet) : List (List ByteRange) := s.toList.flatMap Utf8.rowsOf

end PhiCalculus.Text
