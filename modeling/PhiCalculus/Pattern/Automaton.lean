import PhiCalculus.Pattern.Meaning

/-!
# Automata

A regular expression is run by an automaton whose states prefer some ways on over others: the
first way to the end, in that order, is the match.  Each state is tried at most once at each place
of the text, so a search ends, and a repetition of something empty stops there.
-/

set_option autoImplicit false

namespace PhiCalculus.Pattern

open Text

/-! ## States -/

/-- What the automaton does in a state, and where it goes on. -/
inductive State where
  | chars (set : CodeSet) (next : Nat)
  | look (l : Look) (next : Nat)
  | split (ways : List Nat)
  | done
  deriving Inhabited

/-- The states in the order of their numbers. -/
abbrev Automaton := Array State

/-- The two ways on at a repetition, the preferred one first. -/
def ways (greedy : Bool) (again leave : Nat) : State :=
  .split (if greedy then [again, leave] else [leave, again])

mutual

/-- Adds the states of an expression that goes on at `next`; returns where it starts. -/
def Regular.build (next : Nat) (states : Automaton) : Regular → Nat × Automaton
  | .empty => (next, states)
  | .word letters =>
    letters.foldr (fun c (here : Nat × Automaton) =>
      (here.2.size, here.2.push (.chars (CodeSet.single c.toNat) here.1))) (next, states)
  | .chars s => (states.size, states.push (.chars s next))
  | .look l => (states.size, states.push (.look l next))
  | .group body => body.build next states
  | .alternation branches =>
    let (starts, states) := Regular.buildBranches next states branches
    (states.size, states.push (.split starts))
  | .concat parts => Regular.buildParts next states parts
  | .repetition least most greedy body =>
    let copies (n : Nat) (start : Nat × Automaton) : Nat × Automaton :=
      n.repeat (fun here => body.build here.1 here.2) start
    match most with
    | some most =>
      let optional (start : Nat × Automaton) : Nat × Automaton :=
        let (again, states) := body.build start.1 start.2
        (states.size, states.push (ways greedy again next))
      copies least ((most - least).repeat optional (next, states))
    | none =>
      let loop := states.size
      let (again, states) := body.build loop (states.push .done)
      let states := states.set! loop (ways greedy again next)
      match least with
      | 0 =>
        if body.advances then (loop, states)
        else (states.size, states.push (ways greedy again next))
      | n + 1 => copies n (again, states)

/-- Adds the states of alternatives that all go on at `next`; returns where each starts. -/
def Regular.buildBranches (next : Nat) (states : Automaton) :
    List Regular → List Nat × Automaton
  | [] => ([], states)
  | r :: rest =>
    let (start, states) := r.build next states
    let (starts, states) := Regular.buildBranches next states rest
    (start :: starts, states)

/-- Adds the states of expressions in a row, the last one first. -/
def Regular.buildParts (next : Nat) (states : Automaton) : List Regular → Nat × Automaton
  | [] => (next, states)
  | r :: rest =>
    let (start, states) := Regular.buildParts next states rest
    r.build start states

end

/-! ## Places -/

/-- The characters that words are made of. -/
def wordChars : CodeSet := LetterClass.word.set

def asciiWordChars : CodeSet := LetterClass.word.asciiSet

/-- Whether there is a character and it is part of a word. -/
def isWord (unicode : Bool) (c : Option Char) : Bool :=
  match c with
  | none => false
  | some c => (if unicode then wordChars else asciiWordChars).contains c.toNat

/-- Whether a condition holds between two neighbouring characters, which are missing at the ends
of the text. -/
def Look.holds (before after : Option Char) : Look → Bool
  | .textStart => before.isNone
  | .textEnd => after.isNone
  | .lineStart false => before.isNone || before == some '\n'
  | .lineEnd false => after.isNone || after == some '\n'
  | .lineStart true =>
    before.isNone || before == some '\n' || (before == some '\r' && after != some '\n')
  | .lineEnd true =>
    after.isNone || after == some '\r' || (after == some '\n' && before != some '\r')
  | .word kind unicode =>
    let a := isWord unicode before
    let b := isWord unicode after
    match kind with
    | .either => a != b
    | .neither => a == b
    | .start => !a && b
    | .finish => a && !b
    | .startHalf => !a
    | .finishHalf => !b

/-! ## Searching -/

/-- The character just before a place. -/
def charBefore (text : Array Char) : Nat → Option Char
  | 0 => none
  | place + 1 => text[place]?

/-- Follows the pending ways, the first one first, and returns the end of the first match.  `seen`
marks the pairs of a state and a place that were tried before. -/
def explore (a : Automaton) (text : Array Char) :
    Nat → List (Nat × Nat) → Array Bool → Option Nat × Array Bool
  | 0, _, seen => (none, seen)
  | _ + 1, [], seen => (none, seen)
  | fuel + 1, (state, place) :: pending, seen =>
    let mark := place * a.size + state
    if seen.getD mark true then explore a text fuel pending seen
    else
      let seen := seen.set! mark true
      match a.getD state .done with
      | .done => (some place, seen)
      | .chars s next =>
        match text[place]? with
        | some c =>
          if s.contains c.toNat then explore a text fuel ((next, place + 1) :: pending) seen
          else explore a text fuel pending seen
        | none => explore a text fuel pending seen
      | .look l next =>
        if l.holds (charBefore text place) text[place]? then
          explore a text fuel ((next, place) :: pending) seen
        else explore a text fuel pending seen
      | .split ways => explore a text fuel (ways.map (·, place) ++ pending) seen

/-- The number of ways on from a state, counting the state itself. -/
def State.steps : State → Nat
  | .split ways => ways.length + 1
  | _ => 2

/-- The first match that starts at one of the next `count` places from `place` on.  What failed
from an earlier start fails again, so the marks are kept. -/
def searchFrom (a : Automaton) (start : Nat) (text : Array Char) (fuel : Nat) :
    Nat → Nat → Array Bool → Option (Nat × Nat)
  | 0, _, _ => none
  | count + 1, place, seen =>
    match explore a text fuel [(start, place)] seen with
    | (some finish, _) => some (place, finish)
    | (none, seen) => searchFrom a start text fuel count (place + 1) seen

/-- The leftmost match that starts at `place` or after it. -/
def findFrom (a : Automaton) (start : Nat) (text : Array Char) (place : Nat) :
    Option (Nat × Nat) :=
  if text.size < place then none
  else
    let places := text.size + 1
    let steps := (a.foldl (fun n s => n + s.steps) 0) * places + places
    searchFrom a start text steps (places - place) place (Array.replicate (a.size * places) false)

/-- All matches from `place` on that do not overlap; an empty match does not follow directly after
another match. -/
def findAll (a : Automaton) (start : Nat) (text : Array Char) :
    Nat → Nat → Option Nat → List (Nat × Nat)
  | 0, _, _ => []
  | fuel + 1, place, last =>
    match findFrom a start text place with
    | none => []
    | some (first, finish) =>
      if first == finish && last == some finish then
        findAll a start text fuel (place + 1) last
      else (first, finish) :: findAll a start text fuel finish (some finish)

end PhiCalculus.Pattern
