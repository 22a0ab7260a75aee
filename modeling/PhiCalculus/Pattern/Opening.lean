import PhiCalculus.Pattern.Regular
import PhiCalculus.Text.Utf8

/-!
# How matches begin

A search can look for the bytes that matches begin with.  If matches are nothing but those bytes,
the bytes are all there is to look for, and no automaton is needed.

The openings of an expression come in the order of preference.  There must not be too many of them,
and none may be too long; what goes beyond the limits is cut off, or the openings are not told.
Openings that are bad to look for, because texts hold them often, are given up as well.
-/

set_option autoImplicit false

namespace PhiCalculus.Pattern

open Text

/-- Bytes that a match can begin with. -/
structure Opening where
  bytes : List UInt8
  /-- Whether the match ends with these bytes. -/
  whole : Bool
  deriving Repr, DecidableEq

/-- The openings of an expression, or nothing if they cannot be told. -/
abbrev Openings := Option (List Opening)

namespace Opening

/-- No bytes, and nothing after them. -/
def blank : Opening := ⟨[], true⟩

/-- At most the first bytes of an opening. -/
def cut (count : Nat) (o : Opening) : Opening :=
  if o.bytes.length ≤ count then o else ⟨o.bytes.take count, false⟩

/-- An opening that more may follow. -/
def unfinished (o : Opening) : Opening := { o with whole := false }

/-- An opening and what follows it. -/
def append (a b : Opening) : Opening := ⟨a.bytes ++ b.bytes, b.whole⟩

/-- Puts an opening before others; it is one with its neighbour if both have the same bytes. -/
def join (a : Opening) (rest : List Opening) : List Opening :=
  match rest with
  | [] => [a]
  | b :: more =>
    if a.bytes == b.bytes then ⟨a.bytes, a.whole && b.whole⟩ :: more else a :: rest

/-- Openings without neighbours that have the same bytes. -/
def merge (os : List Opening) : List Opening := os.foldr join []

/-- Leaves out every opening that begins like one that is preferred to it. -/
def uncovered (os : List Opening) : List Opening :=
  (os.foldl (fun kept o =>
    if kept.any fun k => k.bytes.isPrefixOf o.bytes then kept else o :: kept) []).reverse

end Opening

namespace Openings

/-! ## Limits -/

/-- The greatest set of characters that is looked into. -/
def setLimit : Nat := 10

/-- The most rounds of a repetition that are looked into. -/
def roundLimit : Nat := 10

/-- The greatest length of an opening. -/
def lengthLimit : Nat := 100

/-- The greatest number of openings. -/
def numberLimit : Nat := 250

/-! ## Putting openings together -/

/-- Whether no opening is a whole match, so that nothing can be added to any. -/
def areUnfinished (os : Openings) : Bool :=
  match os with
  | none => true
  | some os => os.all fun o => !o.whole

def unfinished (os : Openings) : Openings := os.map (·.map Opening.unfinished)

def cut (count : Nat) (os : Openings) : Openings := os.map (·.map (Opening.cut count))

def merge (os : Openings) : Openings := os.map Opening.merge

/-- Whether two numbers of openings come to more than the limit when they are taken together. -/
def isOver (together : Nat → Nat → Nat) (a b : Openings) : Bool :=
  match a, b with
  | some a, some b => numberLimit < together a.length b.length
  | _, _ => false

/-- The openings of a row: every whole one is followed by each opening of what comes next. -/
def cross (a b : Openings) : Openings :=
  let b := if isOver (· * ·) a b then none else b
  cut lengthLimit <|
    match a, b with
    | none, _ => none
    | some a, none =>
      if a.any (·.bytes.isEmpty) then none else some (a.map Opening.unfinished)
    | some a, some b =>
      some <| Opening.merge <| a.flatMap fun o => if o.whole then b.map o.append else [o]

/-- The openings of a choice.  If there are too many, only four bytes of each are kept. -/
def union (a b : Openings) : Openings :=
  let cramped := isOver (· + ·) a b
  let a := if cramped then merge (cut 4 a) else a
  let b := if cramped then merge (cut 4 b) else b
  match a, b with
  | some x, some y => if isOver (· + ·) a b then none else some (Opening.merge (x ++ y))
  | _, _ => none

/-- The openings of so many rounds. -/
def rounds (body : Openings) : Nat → Openings → Openings
  | 0, os => os
  | n + 1, os => if areUnfinished os then os else rounds body n (cross os body)

/-- The openings of a set of characters. -/
def ofSet (s : CodeSet) : Openings :=
  let count := (s.toList.map fun r => r.2 + 1 - r.1).foldl (· + ·) 0
  if setLimit < count then none
  else
    let codes := s.toList.flatMap fun r => (List.range (r.2 + 1 - r.1)).map (r.1 + ·)
    some (codes.map fun c => ⟨String.utf8EncodeChar (Char.ofNat c), true⟩)

/-- The openings of a repetition. -/
def ofRepetition (least : Nat) (most : Option Nat) (greedy : Bool) (body : Openings) : Openings :=
  if least == 0 then
    let body := if most == some 1 then body else unfinished body
    if greedy then union body (some [Opening.blank]) else union (some [Opening.blank]) body
  else
    let os := rounds body (min least roundLimit) (some [Opening.blank])
    if most == some least && least ≤ roundLimit then os else unfinished os

end Openings

mutual

/-- The openings of an expression. -/
def Regular.openings : Regular → Openings
  | .empty => some [Opening.blank]
  | .word letters => Openings.cut Openings.lengthLimit (some [⟨utf8Bytes letters, true⟩])
  | .chars s => Openings.ofSet s
  | .look _ => some [Opening.blank]
  | .group body => body.openings
  | .repetition least most greedy body => Openings.ofRepetition least most greedy body.openings
  | .alternation branches => Regular.openingsOfChoice (some []) branches
  | .concat parts => Regular.openingsOfRow (some [Opening.blank]) parts

/-- The openings of a choice whose first branches have the given ones. -/
def Regular.openingsOfChoice (before : Openings) : List Regular → Openings
  | [] => before
  | r :: rest =>
    if before.isNone then before else Regular.openingsOfChoice (before.union r.openings) rest

/-- The openings of a row whose first parts have the given ones. -/
def Regular.openingsOfRow (before : Openings) : List Regular → Openings
  | [] => before
  | r :: rest =>
    if before.areUnfinished then before
    else Regular.openingsOfRow (before.cross r.openings) rest

end

/-! ## What is good to look for -/

/-- The bytes that texts hold often. -/
def frequentBytes : CodeSet :=
  CodeSet.ofTable "a d 20 28-29 2c-32 39-3a 5f 61-69 6c-70 72-76 78-79 7c 80-84 90 b1 b5-b7 b9-bd
    bf-ff"

/-- The bytes that texts are full of. -/
def ubiquitousBytes : CodeSet := CodeSet.ofTable "20 65 74 c0-ff"

namespace Opening

/-- The bytes that all openings begin with. -/
def sharedBytes : List Opening → List UInt8
  | [] => []
  | o :: rest => rest.foldl (fun shared o =>
      ((shared.zip o.bytes).takeWhile fun pair => pair.1 == pair.2).map Prod.fst) o.bytes

/-- Whether a text is full of places that begin in this way. -/
def isUbiquitous (o : Opening) : Bool :=
  match o.bytes with
  | [] => true
  | [b] => ubiquitousBytes.contains b.toNat
  | _ => false

/-- Makes openings shorter as long as there are more of them than a limit; each attempt names the
length to keep and the limit. -/
def shorten : List (Nat × Nat) → List Opening → List Opening
  | [], os => os
  | (length, limit) :: attempts, os =>
    if os.length ≤ limit then os else shorten attempts (uncovered (os.map (cut length)))

/-- The attempts to shorten openings. -/
def attempts : List (Nat × Nat) := [(5, 10), (4, 10), (3, 64), (2, 64), (1, 10)]

/-- Fewer and shorter openings, if these are good to look for; whole matches are kept otherwise. -/
def shortened (os : List Opening) : Openings :=
  let short := shorten attempts os
  let bad := short.any isUbiquitous
  if os.all Opening.whole then
    if bad || short.any (fun o => o.bytes.length ≤ 2) || 64 < short.length then some os
    else some short
  else if bad then none
  else some short

/-- The openings to look for.  What all of them begin with is taken instead of them if it is rare,
or if it is long and the openings are many. -/
def selected (os : List Opening) : Openings :=
  if os.any (·.bytes.isEmpty) then none
  else
    let number := os.length
    let os := uncovered os
    let shared := sharedBytes os
    let isRare := match shared with
      | b :: _ => shared.length ≤ 3 && !frequentBytes.contains b.toNat
      | [] => false
    if 1 < number && isRare then some (merge (os.map (cut 1)))
    else
      let isFast := os.all Opening.whole && os.length ≤ 16
      if 4 < shared.length || (1 < shared.length && !isFast) then
        shortened (merge (os.map (cut shared.length)))
      else shortened os

end Opening

/-! ## Searches without an automaton -/

mutual

/-- Whether the expression is free of groups and of conditions on places. -/
def Regular.isPlain : Regular → Bool
  | .look _ => false
  | .group _ => false
  | .repetition _ _ _ body => body.isPlain
  | .alternation branches => Regular.arePlain branches
  | .concat parts => Regular.arePlain parts
  | _ => true

def Regular.arePlain : List Regular → Bool
  | [] => true
  | r :: rest => r.isPlain && Regular.arePlain rest

end

/-- The number of words from which on a choice between them is looked up in a dictionary. -/
def dictionarySize : Nat := 3000

/-- Whether the expression is a choice between many words. -/
def Regular.isDictionary : Regular → Bool
  | .alternation branches =>
    dictionarySize ≤ branches.length && branches.all fun r => r.letters?.isSome
  | _ => false

/-- The words that are all there is to look for, in the order of preference. -/
def Regular.words? (r : Regular) : Option (List (List Char)) :=
  match r.openings.bind Opening.selected with
  | none => none
  | some os =>
    if r.isPlain && !os.isEmpty && os.all Opening.whole then
      os.mapM fun o => (String.fromUTF8? ⟨o.bytes.toArray⟩).map String.toList
    else none

end PhiCalculus.Pattern
