import PhiCalculus.Json
import PhiCalculus.Number.Real

/-!
# Reading JSON

Reads the JSON format strictly: no comments, no trailing commas, nothing but blanks after the
value.  Values nest to a limit, numbers must be in the range of real numbers and strings must be
text.

A document may have members that its reader has no use for.  Those are skipped: only their syntax
is checked, to any depth.
-/

set_option autoImplicit false

namespace PhiCalculus.Json

/-! ## Tokens -/

/-- Whether a character may stand between tokens. -/
def isBlank (c : Char) : Bool := c == ' ' || c == '\n' || c == '\t' || c == '\r'

def skipBlanks (cs : List Char) : List Char := cs.dropWhile isBlank

/-- What follows a piece of text that must come first. -/
def after? : List Char → List Char → Option (List Char)
  | [], cs => some cs
  | p :: ps, c :: cs => if p == c then after? ps cs else none
  | _ :: _, [] => none

/-- The number that four hexadecimal digits spell. -/
def readHex4 : List Char → Option (Nat × List Char)
  | a :: b :: c :: d :: rest => do
    let a ← Number.digit? 16 a
    let b ← Number.digit? 16 b
    let c ← Number.digit? 16 c
    let d ← Number.digit? 16 d
    some (a * 4096 + b * 256 + c * 16 + d, rest)
  | _ => none

/-- The character with that number, where it has to stand alone. -/
def charOf? (n : Nat) : Option Char :=
  if h : n.isValidChar then some (Char.ofNatAux n h) else none

/-- What stands for half a character in text that is skipped. -/
def unknownChar : Char := '\uFFFD'

/-- Reads a character by number, after its backslash and letter.  A character outside the basic
plane is spelled by two numbers. -/
def readNumbered (lenient : Bool) (cs : List Char) : Option (Char × List Char) := do
  let (n, rest) ← readHex4 cs
  if lenient then some ((charOf? n).getD unknownChar, rest)
  else if 0xD800 ≤ n && n < 0xDC00 then do
    let rest ← after? ['\\', 'u'] rest
    let (m, rest) ← readHex4 rest
    if 0xDC00 ≤ m && m < 0xE000 then do
      let c ← charOf? (0x10000 + (n - 0xD800) * 0x400 + (m - 0xDC00))
      some (c, rest)
    else none
  else do
    let c ← charOf? n
    some (c, rest)

/-- Reads an escape after its backslash. -/
def readEscape (lenient : Bool) : List Char → Option (Char × List Char)
  | [] => none
  | c :: rest =>
    match c with
    | '"' => some ('"', rest)
    | '\\' => some ('\\', rest)
    | '/' => some ('/', rest)
    | 'b' => some ('\x08', rest)
    | 'f' => some ('\x0c', rest)
    | 'n' => some ('\n', rest)
    | 'r' => some ('\r', rest)
    | 't' => some ('\t', rest)
    | 'u' => readNumbered lenient rest
    | _ => none

/-- Reads a string after its opening quote; `read` is what was read so far, in reverse. -/
def readString (lenient : Bool) (read : List Char) :
    Nat → List Char → Option (String × List Char)
  | 0, _ => none
  | _ + 1, [] => none
  | fuel + 1, c :: rest =>
    if c == '"' then some (String.ofList read.reverse, rest)
    else if c == '\\' then do
      let (c, rest) ← readEscape lenient rest
      readString lenient (c :: read) fuel rest
    else if c.toNat < 0x20 then none
    else readString lenient (c :: read) fuel rest

/-! ## Numbers -/

/-- The digits at the start, at least one. -/
def readDigits (cs : List Char) : Option (List Char × List Char) :=
  match cs.takeWhile Number.isDecimal with
  | [] => none
  | digits => some (digits, cs.dropWhile Number.isDecimal)

/-- Reads the fraction of a number, if there is one. -/
def readFraction : List Char → Option (Option (List Char) × List Char)
  | '.' :: rest => (readDigits rest).map fun (ds, rest) => (some ds, rest)
  | cs => some (none, cs)

/-- Reads the exponent of a number, if there is one. -/
def readExponent (cs : List Char) : Option (Option Int × List Char) :=
  match cs with
  | [] => some (none, cs)
  | c :: rest =>
    if c == 'e' || c == 'E' then
      let (minus, rest) := match rest with
        | '-' :: more => (true, more)
        | '+' :: more => (false, more)
        | _ => (false, rest)
      (readDigits rest).map fun (ds, rest) =>
        let n : Int := Number.decimalValue 0 ds
        (some (if minus then -n else n), rest)
    else some (none, cs)

/-- The greatest whole number that is kept without rounding. -/
def wholeLimit : Nat := 0xFFFFFFFFFFFFFFFF

/-- The number that the digits spell, continuing from `acc` as long as it stays within the limit,
and the digits that are left over. -/
def leadingValue (acc : Nat) : List Char → Nat × List Char
  | [] => (acc, [])
  | c :: rest =>
    let next := acc * 10 + (c.toNat - 48)
    if wholeLimit < next then (acc, c :: rest) else leadingValue next rest

/-- The greatest power of ten that is a real number. -/
def powerLimit : Nat := 308

/-- The real number nearest to a power of ten. -/
def powerOfTen (n : Nat) : Number.Binary := Number.Binary.nearest (Nat.pow 10 n) 1

/-- Divides by a power of ten, in steps if it is no real number itself. -/
def divided : Nat → Number.Binary → Nat → Number.Binary
  | 0, x, n => x.quotient (powerOfTen n)
  | steps + 1, x, n =>
    if n ≤ powerLimit then x.quotient (powerOfTen n)
    else divided steps (x.quotient (powerOfTen powerLimit)) (n - powerLimit)

/-- A whole number times a power of ten, rounded after each operation, if that is a real number. -/
def scaled? (n : Nat) (exponent : Int) : Option Number.Binary :=
  let x := Number.Binary.nearest n 1
  if n == 0 then some x
  else if 0 ≤ exponent then
    if exponent ≤ powerLimit then
      some (x.product (powerOfTen exponent.toNat)) |>.filter Number.Binary.isFinite
    else none
  -- three steps take any whole number within the limit to zero
  else some (divided 3 x (min (-exponent).toNat (4 * powerLimit)))

/-- The real number with those digits.  Only the digits that a whole number within the limit can
have count; the other digits before the point only take their places. -/
def realOf? (whole fraction : List Char) (exponent : Int) : Option Number.Binary :=
  let (n, passed) := leadingValue 0 whole
  let (n, ignored) := leadingValue n fraction
  scaled? n (exponent + passed.length - (fraction.length - ignored.length : Nat))

/-- The number with those digits.  Whole numbers that fit in 64 bits stay whole. -/
def numberOf (lenient minus : Bool) (whole : List Char) (fraction : Option (List Char))
    (exponent : Option Int) : Option Json :=
  let n := Number.decimalValue 0 whole
  if fraction.isNone && exponent.isNone && !minus && n ≤ wholeLimit then some (.natural n)
  else if fraction.isNone && exponent.isNone && minus && 0 < n && n ≤ 0x8000000000000000 then
    some (.negative (-(n : Int)))
  else
    match realOf? whole (fraction.getD []) (exponent.getD 0) with
    | some b => some (.real (if minus then -b.toFloat else b.toFloat))
    | none => if lenient then some (.real 0.0) else none

/-- Reads a number. -/
def readNumber (lenient : Bool) (cs : List Char) : Option (Json × List Char) := do
  let (minus, cs) := match cs with
    | '-' :: rest => (true, rest)
    | _ => (false, cs)
  let (whole, cs) ← readDigits cs
  if 1 < whole.length && whole.head? == some '0' then none
  let (fraction, cs) ← readFraction cs
  let (exponent, cs) ← readExponent cs
  let n ← numberOf lenient minus whole fraction exponent
  some (n, cs)

/-! ## Values -/

/-- The greatest number of values nested in one another, plus one. -/
def nestLimit : Nat := 128

mutual

/-- Reads a value; `room` is how many more values may be nested.  There is no limit for what is
skipped. -/
def readValue (lenient : Bool) : Nat → Nat → List Char → Option (Json × List Char)
  | 0, _, _ => none
  | fuel + 1, room, cs =>
    match skipBlanks cs with
    | [] => none
    | c :: rest =>
      match c with
      | 'n' => (after? ['u', 'l', 'l'] rest).map fun rest => (.null, rest)
      | 't' => (after? ['r', 'u', 'e'] rest).map fun rest => (.bool true, rest)
      | 'f' => (after? ['a', 'l', 's', 'e'] rest).map fun rest => (.bool false, rest)
      | '"' => (readString lenient [] (rest.length + 1) rest).map fun (s, rest) => (.string s, rest)
      | '[' =>
        if !lenient && room ≤ 1 then none
        else
          match skipBlanks rest with
          | ']' :: rest => some (.array [], rest)
          | rest =>
            (readItems lenient fuel (room - 1) rest).map fun (items, rest) => (.array items, rest)
      | '\x7b' =>
        if !lenient && room ≤ 1 then none
        else
          match skipBlanks rest with
          | '\x7d' :: rest => some (.object [], rest)
          | rest =>
            (readMembers lenient (fun _ => true) fuel (room - 1) rest).map fun (ms, rest) =>
              (.object ms, rest)
      | _ => readNumber lenient (c :: rest)

/-- Reads the elements of an array up to its closing bracket. -/
def readItems (lenient : Bool) : Nat → Nat → List Char → Option (List Json × List Char)
  | 0, _, _ => none
  | fuel + 1, room, cs =>
    match readValue lenient fuel room cs with
    | none => none
    | some (item, rest) =>
      match skipBlanks rest with
      | ']' :: rest => some ([item], rest)
      | ',' :: rest =>
        (readItems lenient fuel room rest).map fun (items, rest) => (item :: items, rest)
      | _ => none

/-- Reads the members of an object up to its closing brace; those that are not wanted are skipped
and left out. -/
def readMembers (lenient : Bool) (wanted : String → Bool) :
    Nat → Nat → List Char → Option (List (String × Json) × List Char)
  | 0, _, _ => none
  | fuel + 1, room, cs =>
    match skipBlanks cs with
    | '"' :: rest =>
      match readString lenient [] (rest.length + 1) rest with
      | none => none
      | some (name, rest) =>
        match skipBlanks rest with
        | ':' :: rest =>
          match readValue (lenient || !wanted name) fuel room rest with
          | none => none
          | some (v, rest) =>
            let member := if wanted name then [(name, v)] else []
            match skipBlanks rest with
            | '\x7d' :: rest => some (member, rest)
            | ',' :: rest =>
              (readMembers lenient wanted fuel room rest).map fun (ms, rest) => (member ++ ms, rest)
            | _ => none
        | _ => none
    | _ => none

end

/-- Reads a document; if it is an object, its members that are not wanted are skipped. -/
def readDocument (wanted : String → Bool) (text : String) : Option Json :=
  let cs := skipBlanks text.toList
  let fuel := cs.length + 1
  let read := match cs with
    | '\x7b' :: rest =>
      match skipBlanks rest with
      | '\x7d' :: rest => some (.object [], rest)
      | rest =>
        (readMembers false wanted fuel (nestLimit - 1) rest).map fun (ms, rest) =>
          (.object ms, rest)
    | _ => readValue false fuel nestLimit cs
  match read with
  | some (v, rest) => if (skipBlanks rest).isEmpty then some v else none
  | none => none

/-- Reads a value that is the whole text. -/
def read (text : String) : Option Json := readDocument (fun _ => true) text

end PhiCalculus.Json
