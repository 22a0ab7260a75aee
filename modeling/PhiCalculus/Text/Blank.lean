/-!
# Blank characters

The characters of Unicode's `White_Space` property, and the text that is left when they are taken
off both ends.  Literals are read from trimmed text, so a literal may be written with blanks
around it.
-/

set_option autoImplicit false

namespace PhiCalculus.Text

/-- The characters with Unicode's `White_Space` property. -/
def isBlank (c : Char) : Bool :=
  let n := c.toNat
  (9 ≤ n && n ≤ 13) || n == 0x20 || n == 0x85 || n == 0xA0 || n == 0x1680 ||
    (0x2000 ≤ n && n ≤ 0x200A) || n == 0x2028 || n == 0x2029 || n == 0x202F || n == 0x205F ||
    n == 0x3000

/-- The text without the blanks at its start. -/
def trimLeft (cs : List Char) : List Char :=
  cs.dropWhile isBlank

/-- The text without the blanks at its end. -/
def trimRight (cs : List Char) : List Char :=
  (cs.reverse.dropWhile isBlank).reverse

/-- The text without the blanks at either end. -/
def trim (cs : List Char) : List Char :=
  trimRight (trimLeft cs)

/-! ## Laws -/

/-- Text that neither starts nor ends with a blank is its own trimmed form. -/
theorem trim_of_ends {cs : List Char} (first : ∀ c ∈ cs.head?, isBlank c = false)
    (last : ∀ c ∈ cs.getLast?, isBlank c = false) : trim cs = cs := by
  have left : trimLeft cs = cs := by
    cases cs with
    | nil => rfl
    | cons c rest => simp [trimLeft, first c (by simp)]
  rw [trim, left, trimRight]
  cases shape : cs.reverse with
  | nil => simpa using shape
  | cons c rest =>
    have final : cs.getLast? = some c := by
      rw [List.getLast?_eq_head?_reverse, shape]; rfl
    rw [List.dropWhile_cons, if_neg (by simp [last c (by simp [final])]), ← shape,
      List.reverse_reverse]

end PhiCalculus.Text
