import PhiCalculus.Pattern.Layout
import PhiCalculus.Pattern.Opening

/-!
# The space that patterns take

A search uses two automata: one reads a text forward, and one reads it backward from the end of a
match to find its start.  Only the first one keeps track of groups.  Unless a pattern is tied to the
end of a text that is read first, the automaton begins with states that let a match stand anywhere.

A search for certain words needs no automaton, whatever space one would take.
-/

set_option autoImplicit false

namespace PhiCalculus.Pattern

/-- The condition that holds only where the reading of a text begins. -/
def Reading.origin : Reading → Look
  | .forward => .textStart
  | .backward => .textEnd

mutual

/-- Whether matches can stand only where the reading of a text begins. -/
def Regular.isTied (d : Reading) : Regular → Bool
  | .look l => l == d.origin
  | .group body => body.isTied d
  | .repetition least _ _ body => 0 < least && body.isTied d
  | .alternation branches => Regular.areTied d branches
  | .concat parts => Regular.isRowTied d parts
  | _ => false

/-- Whether all branches of a choice are tied. -/
def Regular.areTied (d : Reading) : List Regular → Bool
  | [] => true
  | r :: rest => r.isTied d && Regular.areTied d rest

/-- Whether a part of a row is tied and nothing that takes a character is read before it. -/
def Regular.isRowTied (d : Reading) : List Regular → Bool
  | [] => false
  | r :: rest =>
    match d with
    | .forward => r.isTied d || (r.weightless && Regular.isRowTied d rest)
    | .backward => Regular.isRowTied d rest || (Regular.allWeightless rest && r.isTied d)

end

/-- The states before an expression. -/
def Regular.frontLayout (d : Reading) (r : Regular) : Layout :=
  if r.isTied d then ({} : Layout).add 0
  else (((({} : Layout).add 0).add 0).add rangeSpace).widen 2

/-- The space of the automaton for an expression: what lets a match stand anywhere, the expression
as a group, and the state that ends it. -/
def Regular.space (d : Reading) (r : Regular) : Nat :=
  let whole := match d with
    | .forward => Regular.group r
    | .backward => r
  ((whole.lay d (r.frontLayout d)).close.add 0).space

/-- Whether the automata for an expression stay within the limit on space. -/
def Regular.isAffordable (r : Regular) : Bool :=
  r.space .forward ≤ spaceLimit && r.space .backward ≤ spaceLimit

/-- What is searched for in place of an expression: the words that matches are, if they are known,
and else the expression itself, unless its automata take too much space. -/
def Regular.search? (r : Regular) : Option Regular :=
  match r.words? with
  | some words => some (.alternation (words.map .word))
  | none => if r.isDictionary || r.isAffordable then some r else none

end PhiCalculus.Pattern
