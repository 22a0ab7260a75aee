/-!
# Sets of characters

A set of code points is kept as its maximal ranges, in ascending order.  Classes of characters,
such as the properties that the Unicode standard lists or a bracketed class of a pattern, are
sets of this kind, and so are closed under union, complement, intersection and difference.
-/

set_option autoImplicit false

namespace PhiCalculus.Text

/-- The greatest code point. -/
def lastCode : Nat := 0x10FFFF

/-- A set of code points: ascending ranges, both ends included, none touching the next. -/
structure CodeSet where
  ranges : Array (Nat × Nat)
  deriving Repr, DecidableEq, Inhabited

namespace CodeSet

/-! ## Building -/

/-- Joins ranges that overlap or touch; the ranges come sorted by their lower end. -/
def join : List (Nat × Nat) → List (Nat × Nat)
  | [] => []
  | [r] => [r]
  | (lo, hi) :: (lo', hi') :: rest =>
    if lo' ≤ hi + 1 then join ((lo, max hi hi') :: rest)
    else (lo, hi) :: join ((lo', hi') :: rest)
  termination_by rs => rs.length

/-- The set of all code points that lie in one of the ranges. -/
def ofList (rs : List (Nat × Nat)) : CodeSet :=
  let proper := rs.filter fun r => r.1 ≤ r.2
  ⟨(join (proper.mergeSort fun a b => a.1 ≤ b.1)).toArray⟩

def empty : CodeSet := ⟨#[]⟩

def range (lo hi : Nat) : CodeSet := ofList [(lo, hi)]

def single (c : Nat) : CodeSet := ⟨#[(c, c)]⟩

/-! ## Operations -/

def toList (s : CodeSet) : List (Nat × Nat) := s.ranges.toList

def isEmpty (s : CodeSet) : Bool := s.ranges.isEmpty

def union (a b : CodeSet) : CodeSet := ofList (a.toList ++ b.toList)

/-- The gaps between ascending ranges, from `next` on. -/
def gaps (next : Nat) : List (Nat × Nat) → List (Nat × Nat)
  | [] => if next ≤ lastCode then [(next, lastCode)] else []
  | (lo, hi) :: rest =>
    if next < lo then (next, lo - 1) :: gaps (hi + 1) rest else gaps (hi + 1) rest

def complement (s : CodeSet) : CodeSet := ⟨(gaps 0 s.toList).toArray⟩

def inter (a b : CodeSet) : CodeSet := (a.complement.union b.complement).complement

def diff (a b : CodeSet) : CodeSet := a.inter b.complement

def symmDiff (a b : CodeSet) : CodeSet := (a.diff b).union (b.diff a)

/-! ## Membership -/

/-- Looks for the range that holds `c` among the ranges with index from `low` up to `high`. -/
def search (ranges : Array (Nat × Nat)) (c low high : Nat) : Bool :=
  if low < high then
    let middle := (low + high) / 2
    match ranges[middle]? with
    | none => false
    | some (lo, hi) =>
      if c < lo then search ranges c low middle
      else if hi < c then search ranges c (middle + 1) high
      else true
  else false
  termination_by high - low

/-- Whether the code point belongs to the set. -/
def contains (s : CodeSet) (c : Nat) : Bool := search s.ranges c 0 s.ranges.size

/-! ## Tables -/

/-- The value of a hexadecimal numeral in lower case, continuing from `acc`. -/
def hexValue (acc : Nat) : List Char → Nat
  | [] => acc
  | c :: rest =>
    hexValue (acc * 16 + (if c.isDigit then c.toNat - 48 else c.toNat - 87)) rest

/-- One entry of a table: a code point, or two joined by a dash. -/
def entry (cs : List Char) : Nat × Nat :=
  let first := cs.takeWhile (· != '-')
  let lo := hexValue 0 first
  match cs.dropWhile (· != '-') with
  | [] => (lo, lo)
  | _ :: last => (lo, hexValue 0 last)

/-- Splits a table at its blanks; `word` holds the current word in reverse. -/
def entries (word : List Char) : List Char → List (Nat × Nat)
  | [] => if word.isEmpty then [] else [entry word.reverse]
  | c :: rest =>
    if c == ' ' || c == '\n' then
      if word.isEmpty then entries [] rest else entry word.reverse :: entries [] rest
    else entries (c :: word) rest

/-- Reads a table of ranges, given in ascending order as hexadecimal `first-last` or `only`. -/
def ofTable (table : String) : CodeSet := ⟨(entries [] table.toList).toArray⟩

end CodeSet

end PhiCalculus.Text
