import PhiCalculus.Pattern.Regular
import PhiCalculus.Text.Utf8

/-!
# The layout of automata

How many states the automaton of an expression has when it reads the bytes of a text one by one,
forward or backward, and how much space they take.  Each state takes the same space, and each
further way on adds to it.

The states for a set of characters follow the rows of its bytes, and rows share states.  Read
forward, two rows share what they begin with and, if the state for it is remembered, what they end
with; read backward, they share what they end with in the order of reading.  The states are
remembered in a table that has one place for all keys with the same mark, so a later state can
drive out an earlier one, which then has to be laid out again.
-/

set_option autoImplicit false

namespace PhiCalculus.Pattern

open Text

/-! ## Space -/

/-- The space of a state, in bytes. -/
def stateSpace : Nat := 32

/-- The space of a way on from a state that has many. -/
def waySpace : Nat := 4

/-- The space of a range of bytes in a state that has many. -/
def rangeSpace : Nat := 8

/-- The most space that an automaton may take, in bytes. -/
def spaceLimit : Nat := 100000

/-- What is laid out of an automaton: the number of its states, and the space that they take. -/
structure Layout where
  states : Nat := 0
  space : Nat := 0
  deriving Repr, DecidableEq

namespace Layout

/-- One more state, with space for what it holds. -/
def add (l : Layout) (content : Nat) : Layout := ⟨l.states + 1, l.space + stateSpace + content⟩

/-- One more state for each of the bytes. -/
def addBytes (l : Layout) (bytes : List UInt8) : Layout :=
  bytes.foldl (fun l _ => l.add 0) l

/-- More ways on from a state. -/
def widen (l : Layout) (ways : Nat) : Layout := { l with space := l.space + ways * waySpace }

/-- Whether the space is exceeded; what is added then makes no difference. -/
def isFull (l : Layout) : Bool := spaceLimit < l.space

end Layout

/-- Which end of a text is read first. -/
inductive Reading where
  | forward
  | backward
  deriving Repr, DecidableEq

/-! ## Remembered states -/

/-- Takes a number into a mark. -/
def mixMark (mark : UInt64) (n : Nat) : UInt64 := (mark ^^^ n.toUInt64) * 1099511628211

/-- The mark of a key. -/
def markOf (key : List Nat) : UInt64 := key.foldl mixMark 14695981039346656037

/-- A state that is remembered by a key, in the place for its mark. -/
structure Remembered where
  place : Nat
  key : List Nat
  state : Nat
  deriving Repr, DecidableEq

/-- A table of states with so many places; the latest state stands first. -/
structure StateTable where
  places : Nat
  entries : List Remembered := []
  deriving Repr, DecidableEq

namespace StateTable

/-- The place for a key. -/
def place (t : StateTable) (key : List Nat) : Nat := (markOf key).toNat % t.places

/-- The state that is remembered by a key. -/
def find? (t : StateTable) (key : List Nat) : Option Nat :=
  let place := t.place key
  match t.entries.find? fun e => e.place == place with
  | some e => if e.key == key then some e.state else none
  | none => none

def insert (t : StateTable) (key : List Nat) (state : Nat) : StateTable :=
  { t with entries := ⟨t.place key, key, state⟩ :: t.entries }

end StateTable

/-! ## Sets of characters -/

/-- Rows whose first entries are the same and that stand next to each other: that entry, and what
follows it in each of them. -/
def rowGroups : List (List ByteRange) → List (ByteRange × List (List ByteRange))
  | [] => []
  | [] :: rows => rowGroups rows
  | (first :: row) :: rows =>
    match rowGroups rows with
    | (other, tails) :: groups =>
      if first == other then (first, row :: tails) :: groups
      else (first, [row]) :: (other, tails) :: groups
    | [] => [(first, [row])]

/-- Lays out the state that reads a way into rows, unless such a state is remembered. -/
def layState (l : Layout) (t : StateTable) (ways : List (ByteRange × Nat)) :
    Nat × Layout × StateTable :=
  let key := ways.flatMap fun (range, next) => [range.1, range.2, next]
  match t.find? key with
  | some state => (state, l, t)
  | none => (l.states, l.add (rangeSpace * ways.length), t.insert key l.states)

/-- Lays out the states that read rows of at most so many bytes and then go on at `target`.  The
states for the ends of rows come before the ones that lead to them. -/
def layRows (target : Nat) : Nat → List (List ByteRange) → Layout → StateTable →
    Nat × Layout × StateTable
  | 0, _, l, t => (target, l, t)
  | length + 1, rows, l, t =>
    let (ways, l, t) := (rowGroups rows).foldl
      (fun (ways, l, t) (first, tails) =>
        if tails.all List.isEmpty then (ways ++ [(first, target)], l, t)
        else
          let (next, l, t) := layRows target length tails l t
          (ways ++ [(first, next)], l, t))
      (([] : List (ByteRange × Nat)), l, t)
    layState l t ways

/-- Lays out the states for a set of characters, read forward. -/
def layForward (s : CodeSet) (l : Layout) : Layout :=
  (layRows l.states 4 s.utf8 (l.add 0) { places := 10000 }).2.1

/-- Lays out the states that read a row backward, the last one for its first byte. -/
def layRow (next : Nat) : List ByteRange → Layout → StateTable → Layout × StateTable
  | [], l, t => (l, t)
  | range :: row, l, t =>
    let key := [next, range.1, range.2]
    match t.find? key with
    | some state => layRow state row l t
    | none => layRow l.states row (l.add 0) (t.insert key l.states)

/-- Lays out the states for a set of characters, read backward. -/
def layBackward (s : CodeSet) (l : Layout) : Layout :=
  let rows := s.utf8
  let target := l.states + 1
  let (l, _) := rows.foldl (fun (l, t) row => layRow target row l t)
    ((l.add 0).add 0, ({ places := 1000 } : StateTable))
  l.widen rows.length

/-- Whether a set has only characters of one byte. -/
def isOneByte (s : CodeSet) : Bool :=
  match s.ranges.back? with
  | none => true
  | some (_, last) => last < 0x80

/-- Lays out the states for a set of characters. -/
def laySet (d : Reading) (s : CodeSet) (l : Layout) : Layout :=
  if l.isFull then l
  else if isOneByte s then (l.add 0).add (rangeSpace * s.ranges.size)
  else
    match d with
    | .forward => layForward s l
    | .backward => layBackward s l

/-! ## Choices between words -/

/-- Splits words at those that end here.  If words end before any other goes on, they count as
one. -/
def wordSections (words : List (List UInt8)) : List (List (List UInt8)) :=
  let first := words.takeWhile List.isEmpty
  let rest := words.dropWhile List.isEmpty
  let split := rest.foldr (fun word sections =>
    match word, sections with
    | [], _ => [] :: sections
    | _, [] => [[word]]
    | _, here :: more => (word :: here) :: more) [[]]
  if first.isEmpty then split else [] :: split

/-- Lays out the states that read words of at most so many bytes.  Words share what they begin with,
except where another word ends between them. -/
def layWords : Nat → List (List UInt8) → Layout → Layout
  | 0, _, l => l
  | length + 1, words, l =>
    let sections := wordSections words
    let l := sections.foldl (fun l words =>
      let firsts := (words.filterMap List.head?).eraseDups
      let l := firsts.foldl (fun l first =>
        let tails := (words.filter fun word => word.head? == some first).map (List.drop 1)
        if tails.all List.isEmpty then l else layWords length tails l) l
      match firsts with
      | [] => l
      | [_] => l.add 0
      | _ => l.add (rangeSpace * firsts.length)) l
    let ways := (sections.filter fun words => !words.isEmpty).length + (sections.length - 1)
    l.add (waySpace * ways)

/-- Lays out a choice between words. -/
def layDictionary (d : Reading) (words : List (List Char)) (l : Layout) : Layout :=
  let words := words.map fun letters =>
    match d with
    | .forward => utf8Bytes letters
    | .backward => (utf8Bytes letters).reverse
  let longest := (words.map List.length).foldl max 0
  layWords longest words (l.add 0)

/-! ## Expressions -/

/-- What is laid out for an expression.  If its last state is a choice, what follows the expression
is one more way on from that state. -/
structure Fragment where
  layout : Layout
  ( splits : Bool)
  deriving Repr, DecidableEq

/-- The layout with the way on from a fragment. -/
def Fragment.close (f : Fragment) : Layout :=
  if f.splits then f.layout.widen 1 else f.layout

/-- Lays out so many copies in a row. -/
def layCopies (one : Layout → Fragment) : Nat → Layout → Fragment
  | 0, l => ⟨l.add 0, false⟩
  | 1, l => one l
  | n + 2, l => if l.isFull then ⟨l, false⟩ else layCopies one (n + 1) (one l).close

/-- Lays out so many copies that may be left out from some copy on. -/
def layOptions (one : Layout → Fragment) : Nat → Fragment → Fragment
  | 0, f => f
  | n + 1, f =>
    if f.layout.isFull then f else layOptions one n (one ((f.close.add 0).widen 2))

mutual

/-- Lays out an expression. -/
def Regular.lay (d : Reading) (l : Layout) : Regular → Fragment
  | .empty => ⟨l.add 0, false⟩
  | .word letters => ⟨l.addBytes (utf8Bytes letters), false⟩
  | .chars s => ⟨laySet d s l, false⟩
  | .look _ => ⟨l.add 0, false⟩
  | .group body =>
    match d with
    | .forward => ⟨(body.lay d (l.add 0)).close.add 0, false⟩
    | .backward => body.lay d l
  | .repetition least none _ body =>
    match least with
    | 0 =>
      if body.advances then ⟨(body.lay d (l.add 0)).close.widen 1, true⟩
      else ⟨(((((body.lay d l).close.add 0).add 0).add 0).widen 4), false⟩
    | 1 => ⟨((body.lay d l).close.add 0).widen 1, true⟩
    | n + 2 =>
      let f := layCopies (fun l => body.lay d l) (n + 1) l
      ⟨((body.lay d f.close).close.add 0).widen 1, true⟩
  | .repetition least (some most) _ body =>
    if least == 0 && most == 1 then
      ⟨((body.lay d (l.add 0)).close.add 0).widen 2, false⟩
    else
      let f := layCopies (fun l => body.lay d l) least l
      if most == least then f
      else
        let f := layOptions (fun l => body.lay d l) (most - least) ⟨f.layout.add 0, f.splits⟩
        ⟨f.close, false⟩
  | .alternation branches =>
    match branches.mapM Regular.letters? with
    | some words => ⟨layDictionary d words l, false⟩
    | none => ⟨Regular.layBranches d 0 l branches, false⟩
  | .concat parts => Regular.layParts d l parts

/-- Lays out the branches of a choice.  The states that the branches start from and lead to come
after the second branch. -/
def Regular.layBranches (d : Reading) (index : Nat) (l : Layout) : List Regular → Layout
  | [] => l
  | r :: rest =>
    let l := (r.lay d l).close.widen 1
    let l := if index == 1 then (l.add 0).add 0 else l
    Regular.layBranches d (index + 1) l rest

/-- Lays out the parts of a row in the order of reading. -/
def Regular.layParts (d : Reading) (l : Layout) : List Regular → Fragment
  | [] => ⟨l.add 0, false⟩
  | [r] => r.lay d l
  | r :: rest =>
    match d with
    | .forward => Regular.layParts d (r.lay d l).close rest
    | .backward => r.lay d (Regular.layParts d l rest).close

end

end PhiCalculus.Pattern
