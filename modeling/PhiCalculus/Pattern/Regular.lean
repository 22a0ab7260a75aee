import PhiCalculus.Text.CodeSet

/-!
# Regular expressions

Regular expressions over sets of characters, with conditions on places in the text.  They are put
together so that no part is written in a longer way than needed: rows and choices are not nested in
each other, words that stand next to each other are one word, a choice between characters is a set,
and what all branches of a choice start with stands before it.

A group takes what its body takes.  It is kept because what stands in a group is told apart from
anything else, so that it is never drawn together with what surrounds it.
-/

set_option autoImplicit false

namespace PhiCalculus.Pattern

open Text

/-- Which places count as the boundary of a word. -/
inductive Boundary where
  | either
  | neither
  | start
  | finish
  | startHalf
  | finishHalf
  deriving Repr, DecidableEq

/-- A condition on the characters around a place in the text. -/
inductive Look where
  | textStart
  | textEnd
  | lineStart (carriageReturn : Bool)
  | lineEnd (carriageReturn : Bool)
  | word (kind : Boundary) (unicode : Bool)
  deriving Repr, DecidableEq

/-- A regular expression over sets of characters.  The order of alternatives, and whether a
repetition prefers more rounds, decide which of several matches is found. -/
inductive Regular where
  | empty
  | word (letters : List Char)
  | chars (set : CodeSet)
  | look (l : Look)
  | group (body : Regular)
  | repetition (least : Nat) (most : Option Nat) (greedy : Bool) (body : Regular)
  | alternation (branches : List Regular)
  | concat (parts : List Regular)

/-! ## What expressions take -/

mutual

/-- Whether the expression takes no character wherever it matches. -/
def Regular.weightless : Regular → Bool
  | .empty => true
  | .word _ => false
  | .chars _ => false
  | .look _ => true
  | .group body => body.weightless
  | .repetition _ _ _ body => body.weightless
  | .alternation branches => Regular.allWeightless branches
  | .concat parts => Regular.allWeightless parts

def Regular.allWeightless : List Regular → Bool
  | [] => true
  | r :: rest => r.weightless && Regular.allWeightless rest

end

mutual

/-- How many characters a match takes at least.  Of an expression that needs a character of an empty
set nothing is known. -/
def Regular.least? : Regular → Option Nat
  | .empty => some 0
  | .word letters => some letters.length
  | .chars s => if s.isEmpty then none else some 1
  | .look _ => some 0
  | .group body => body.least?
  | .repetition rounds _ _ body => body.least?.map (rounds * ·)
  | .alternation branches => Regular.leastOf? branches
  | .concat parts => Regular.leastSum? parts

def Regular.leastOf? : List Regular → Option Nat
  | [] => none
  | [r] => r.least?
  | r :: rest => r.least?.bind fun m => (Regular.leastOf? rest).map (min m ·)

def Regular.leastSum? : List Regular → Option Nat
  | [] => some 0
  | r :: rest => r.least?.bind fun m => (Regular.leastSum? rest).map (m + ·)

end

/-- Whether the expression is known to take a character wherever it matches. -/
def Regular.advances (r : Regular) : Bool := r.least?.any (0 < ·)

/-! ## Comparing expressions -/

mutual

/-- Whether two expressions are written in the same way.  Groups are told apart, so none is the same
as another. -/
def Regular.same : Regular → Regular → Bool
  | .empty, .empty => true
  | .word a, .word b => a == b
  | .chars s, .chars t => s == t
  | .look l, .look m => l == m
  | .repetition least most greedy body, .repetition least' most' greedy' body' =>
    least == least' && most == most' && greedy == greedy' && body.same body'
  | .alternation branches, .alternation branches' => Regular.allSame branches branches'
  | .concat parts, .concat parts' => Regular.allSame parts parts'
  | _, _ => false

def Regular.allSame : List Regular → List Regular → Bool
  | [], [] => true
  | r :: rest, r' :: rest' => r.same r' && Regular.allSame rest rest'
  | _, _ => false

end

/-- How many parts two rows have in common at their start. -/
def sharedLength : List Regular → List Regular → Nat
  | r :: rest, r' :: rest' => if r.same r' then sharedLength rest rest' + 1 else 0
  | _, _ => 0

/-- The parts that all rows start with. -/
def sharedStart : List (List Regular) → List Regular
  | [] => []
  | parts :: rows => rows.foldl (fun shared row => shared.take (sharedLength shared row)) parts

/-! ## Putting expressions together -/

namespace Regular

/-- A character of a set; the only character of a set is a word. -/
def ofSet (s : CodeSet) : Regular :=
  match s.toList with
  | [(first, last)] => if first == last then .word [Char.ofNat first] else .chars s
  | _ => .chars s

/-- A repetition of an expression.  One that takes no character need not be repeated, and a
repetition that allows for no round or for one alone is none. -/
def repeated (least : Nat) (most : Option Nat) (greedy : Bool) (body : Regular) : Regular :=
  let (least, most) :=
    if body.weightless then (min least 1, some (min (most.getD 1) 1)) else (least, most)
  if least == 0 && most == some 0 then .empty
  else if least == 1 && most == some 1 then body
  else .repetition least most greedy body

/-- What a part adds to the row that it stands in. -/
def partsOf : Regular → List Regular
  | .empty => []
  | .concat parts => parts
  | r => [r]

/-- Puts an expression before a row; two words are joined. -/
def joinWord (r : Regular) (row : List Regular) : List Regular :=
  match r, row with
  | .word a, .word b :: rest => .word (a ++ b) :: rest
  | _, _ => r :: row

/-- Expressions in a row. -/
def row (parts : List Regular) : Regular :=
  match (parts.flatMap partsOf).foldr joinWord [] with
  | [] => .empty
  | [r] => r
  | rs => .concat rs

/-- What a branch adds to the choice that it stands in. -/
def branchesOf : Regular → List Regular
  | .alternation branches => branches
  | r => [r]

/-- The parts of a row. -/
def parts? : Regular → Option (List Regular)
  | .concat parts => some parts
  | _ => none

/-- The letters of a word. -/
def letters? : Regular → Option (List Char)
  | .word letters => some letters
  | _ => none

/-- The letter of a word that has no other. -/
def letter? : Regular → Option CodeSet
  | .word [c] => some (CodeSet.single c.toNat)
  | _ => none

/-- The set that a character is taken from. -/
def set? : Regular → Option CodeSet
  | .chars s => some s
  | _ => none

/-- The set that a choice between letters, or between sets, comes to. -/
def joinedSet? (branches : List Regular) : Option CodeSet :=
  ((branches.mapM letter?).orElse fun _ => branches.mapM set?).map fun sets =>
    CodeSet.ofList (sets.flatMap CodeSet.toList)

/-- A choice between expressions.  The rounds limit how often what the branches start with is drawn
out of them. -/
def choiceWithin (rounds : Nat) (branches : List Regular) : Regular :=
  match branches.flatMap branchesOf with
  | [] => .chars CodeSet.empty
  | [r] => r
  | rs =>
    match joinedSet? rs with
    | some s => .ofSet s
    | none =>
      match rounds, rs.mapM parts? with
      | rounds + 1, some rows =>
        let shared := sharedStart rows
        if shared.isEmpty then .alternation rs
        else
          let rest := rows.map fun parts => row (parts.drop shared.length)
          row (shared ++ [choiceWithin rounds rest])
      | _, _ => .alternation rs

mutual

/-- The number of parts that an expression is made of. -/
def size : Regular → Nat
  | .group body => body.size + 1
  | .repetition _ _ _ body => body.size + 1
  | .alternation branches => sizes branches + 1
  | .concat parts => sizes parts + 1
  | _ => 1

def sizes : List Regular → Nat
  | [] => 0
  | r :: rest => r.size + sizes rest

end

/-- A choice between expressions.  Each time that a common start is drawn out, the branches lose
some of their parts, so they have parts enough for all rounds. -/
def choice (branches : List Regular) : Regular := choiceWithin (sizes branches) branches

end Regular

end PhiCalculus.Pattern
