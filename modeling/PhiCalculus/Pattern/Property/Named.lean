import PhiCalculus.Text.CodeSet

/-!
# Named sets of characters

A table of the Unicode standard lists sets of characters under their names.  Names are compared
without regard to case, blanks, dashes and underscores, so they are listed in lower case.
-/

set_option autoImplicit false

namespace PhiCalculus.Pattern.Property

/-- A set of characters with its names; the table gives its ranges. -/
structure Named where
  names : List String
  table : String
  deriving Repr, DecidableEq

/-- The set of characters that a table lists. -/
def Named.set (n : Named) : Text.CodeSet := Text.CodeSet.ofTable n.table

/-- The entry of that name. -/
def find? (entries : List Named) (name : String) : Option Named :=
  entries.find? fun n => n.names.contains name

/-- The union of the sets of those names. -/
def unionOf (entries : List Named) (names : List String) : Text.CodeSet :=
  Text.CodeSet.ofList ((entries.filter fun n => n.names.any names.contains).flatMap
    fun n => Text.CodeSet.entries [] n.table.toList)

end PhiCalculus.Pattern.Property
