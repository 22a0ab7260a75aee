import PhiCalculus.Number.Digits
import PhiCalculus.Pattern.Written
import PhiCalculus.Text.Blank
import PhiCalculus.Text.Letter

/-!
# Reading patterns

From text to the written form of a regular expression.  Reading fails without a reason: a pattern
is well formed or it is not.

In verbose mode blanks and comments between the parts of a pattern mean nothing.  The mode can be
switched inside a pattern, so it travels along with the rest of the text.  Each reader returns what
is left of the text; the ones that recur take an allowance of steps, and the length of the text is
enough because every step takes at least one character.
-/

set_option autoImplicit false

namespace PhiCalculus.Pattern

open Text

/-! ## Blanks and comments -/

/-- What follows the line that a comment ends. -/
def afterLine (cs : List Char) : List Char := (cs.dropWhile (· != '\n')).drop 1

/-- The text after any blanks and comments. -/
def skipInsignificant : Nat → List Char → List Char
  | 0, cs => cs
  | _ + 1, [] => []
  | fuel + 1, c :: rest =>
    if isBlank c then skipInsignificant fuel rest
    else if c == '#' then skipInsignificant fuel (afterLine rest)
    else c :: rest

/-- The text after what means nothing in the given mode. -/
def skip (verbose : Bool) (cs : List Char) : List Char :=
  if verbose then skipInsignificant cs.length cs else cs

/-- What follows a piece of text that must come first. -/
def after? : List Char → List Char → Option (List Char)
  | [], cs => some cs
  | p :: ps, c :: cs => if p == c then after? ps cs else none
  | _ :: _, [] => none

/-! ## Numbers -/

/-- The digits that come first, with what may separate them in verbose mode. -/
def spanDigits (verbose : Bool) : Nat → List Char → List Char × List Char
  | 0, cs => ([], cs)
  | _ + 1, [] => ([], [])
  | fuel + 1, c :: rest =>
    if c.isDigit then
      let (ds, rest) := spanDigits verbose fuel (skip verbose rest)
      (c :: ds, rest)
    else ([], c :: rest)

/-- The greatest count that a repetition may name. -/
def countLimit : Nat := 0xFFFFFFFF

/-- What comes of reading a count: there may be none, or one that is too great. -/
inductive Count where
  | missing
  | excessive
  | number (n : Nat)
  deriving Repr, DecidableEq

/-- Reads a count with blanks around it. -/
def readCount (verbose : Bool) (cs : List Char) : Count × List Char :=
  let cs := cs.dropWhile isBlank
  let (digits, rest) := spanDigits verbose (cs.length + 1) cs
  let rest := skip verbose (rest.dropWhile isBlank)
  if digits.isEmpty then (.missing, rest)
  else
    match Number.readDigits 10 countLimit .tooLarge digits with
    | .ok n => (.number n, rest)
    | .error _ => (.excessive, rest)

/-- Reads a question mark that makes a repetition prefer fewer rounds. -/
def readGreed : List Char → Bool × List Char
  | '?' :: rest => (false, rest)
  | cs => (true, cs)

/-- Reads the bounds of a repetition after the opening brace. -/
def readBounds (verbose : Bool) (cs : List Char) :
    Option (Nat × Option Nat × Bool × List Char) := do
  let (least, cs) := readCount verbose (skip verbose cs)
  let (least, most, cs) ← match cs with
    | ',' :: rest =>
      match skip verbose rest with
      | [] => none
      | '\x7d' :: more =>
        match least with
        | .number n => some (n, none, '\x7d' :: more)
        | _ => none
      | more =>
        match least, readCount verbose more with
        | .number n, (.number m, more) => if n ≤ m then some (n, some m, more) else none
        | _, _ => none
    | _ =>
      match least with
      | .number n => some (n, some n, cs)
      | _ => none
  match cs with
  | '\x7d' :: rest =>
    let (greedy, rest) := readGreed (skip verbose rest)
    some (least, most, greedy, rest)
  | _ => none

/-! ## Escapes -/

/-- The characters with a meaning of their own. -/
def isMeta (c : Char) : Bool := "\\.+*?()|[]\x7b\x7d^$#&-~".toList.contains c

/-- Whether a backslash before the character makes it stand for itself. -/
def isEscapable (c : Char) : Bool :=
  isMeta c || (c.toNat < 128 && !c.isAlphanum && c != '<' && c != '>')

/-- The character with the number that hexadecimal digits spell. -/
def charOfHex (digits : List Char) : Option Char :=
  match Number.readDigits 16 0xFFFFFFFF .tooLarge digits with
  | .ok n => if h : n.isValidChar then some (Char.ofNatAux n h) else none
  | .error _ => none

/-- Reads a fixed number of hexadecimal digits, then skips what means nothing. -/
def readHexDigits (verbose : Bool) : Nat → List Char → Option (List Char × List Char)
  | 0, cs => some ([], cs)
  | n + 1, c :: rest => do
    if (Number.digit? 16 c).isNone then none
    let (ds, rest) ← readHexDigits verbose n (skip verbose rest)
    some (c :: ds, rest)
  | _ + 1, [] => none

/-- Reads hexadecimal digits up to the closing brace. -/
def readHexBrace (verbose : Bool) : Nat → List Char → Option (List Char × List Char)
  | 0, _ => none
  | fuel + 1, cs =>
    match skip verbose cs with
    | [] => none
    | '\x7d' :: rest => some ([], skip verbose rest)
    | c :: rest => do
      if (Number.digit? 16 c).isNone then none
      let (ds, rest) ← readHexBrace verbose fuel rest
      some (c :: ds, rest)

/-- Reads a character by its number, after the letter that says how many digits it has. -/
def readNumbered (verbose : Bool) (letter : Char) (cs : List Char) :
    Option (Literal × List Char) :=
  match skip verbose cs with
  | [] => none
  | '\x7b' :: rest => do
    let (digits, rest) ← readHexBrace verbose (rest.length + 1) rest
    let c ← charOfHex digits
    some (⟨c, false⟩, rest)
  | cs => do
    let count := if letter == 'x' then 2 else if letter == 'u' then 4 else 8
    let (digits, rest) ← readHexDigits verbose count cs
    let c ← charOfHex digits
    some (⟨c, letter == 'x'⟩, rest)

/-- Reads the name of a property up to the closing brace. -/
def readName (verbose : Bool) : Nat → List Char → Option (List Char × List Char)
  | 0, _ => none
  | fuel + 1, cs =>
    match skip verbose cs with
    | [] => none
    | '\x7d' :: rest => some ([], rest)
    | c :: rest => do
      let (name, rest) ← readName verbose fuel rest
      some (c :: name, rest)

/-- The two sides of the first place where the text has a given piece. -/
def splitAt? (piece : List Char) : List Char → Option (List Char × List Char)
  | [] => none
  | c :: rest =>
    match after? piece (c :: rest) with
    | some right => some ([], right)
    | none => (splitAt? piece rest).map fun (left, right) => (c :: left, right)

/-- What a name in braces asks for.  A name and a value that it is to have stand on the two sides of
a colon or an equals sign. -/
def queryOf (name : List Char) : PropertyQuery :=
  match splitAt? ['!', '='] name with
  | some (n, v) => .valued (String.ofList n) false (String.ofList v)
  | none =>
    match (splitAt? [':'] name).orElse fun _ => splitAt? ['='] name with
    | some (n, v) => .valued (String.ofList n) true (String.ofList v)
    | none => .named (String.ofList name)

/-- Reads a property after `\p` or `\P`. -/
def readProperty (verbose negated : Bool) (cs : List Char) :
    Option (Bool × PropertyQuery × List Char) :=
  match skip verbose cs with
  | [] => none
  | '\x7b' :: rest => do
    let (name, rest) ← readName verbose (rest.length + 1) rest
    some (negated, queryOf name, rest)
  | '\\' :: _ => none
  | c :: rest => some (negated, .named (String.ofList [c]), skip verbose rest)

/-- Whether a character can be part of the name of a word boundary. -/
def isBoundaryChar (c : Char) : Bool := c.isAlpha || c == '-'

/-- Reads the name of a word boundary up to the closing brace. -/
def readBoundaryName (verbose : Bool) : Nat → List Char → Option (List Char × List Char)
  | 0, _ => none
  | _ + 1, [] => none
  | fuel + 1, c :: rest =>
    if c == '\x7d' then some ([], rest)
    else if isBoundaryChar c then do
      let (name, rest) ← readBoundaryName verbose fuel (skip verbose rest)
      some (c :: name, rest)
    else none

/-- Reads what may follow `\b`: a brace that names a kind of boundary, unless it opens a count. -/
def readBoundary (verbose : Bool) (cs : List Char) : Option (Anchor × List Char) :=
  match cs with
  | '\x7b' :: rest =>
    match skip verbose rest with
    | [] => none
    | c :: more =>
      if isBoundaryChar c then do
        let (name, rest) ← readBoundaryName verbose (more.length + 2) (c :: more)
        match String.ofList name with
        | "start" => some (.wordStart, rest)
        | "end" => some (.wordEnd, rest)
        | "start-half" => some (.wordStartHalf, rest)
        | "end-half" => some (.wordEndHalf, rest)
        | _ => none
      else some (.wordBoundary, cs)
  | _ => some (.wordBoundary, cs)

/-- What an escape stands for. -/
inductive Escaped where
  | literal (l : Literal)
  | anchor (a : Anchor)
  | property (negated : Bool) (query : PropertyQuery)
  | letter (negated : Bool) (kind : LetterClass)

/-- Reads what follows a backslash. -/
def readEscape (verbose : Bool) (cs : List Char) : Option (Escaped × List Char) :=
  let char (c : Char) (rest : List Char) : Option (Escaped × List Char) :=
    some (.literal ⟨c, false⟩, rest)
  match cs with
  | [] => none
  | c :: rest =>
    match c with
    | 'x' | 'u' | 'U' =>
      (readNumbered verbose c rest).map fun (l, rest) => (.literal l, rest)
    | 'p' | 'P' =>
      (readProperty verbose (c == 'P') rest).map fun (n, q, rest) => (.property n q, rest)
    | 'd' => some (.letter false .digit, rest)
    | 'D' => some (.letter true .digit, rest)
    | 's' => some (.letter false .space, rest)
    | 'S' => some (.letter true .space, rest)
    | 'w' => some (.letter false .word, rest)
    | 'W' => some (.letter true .word, rest)
    | 'a' => char '\x07' rest
    | 'f' => char '\x0c' rest
    | 't' => char '\t' rest
    | 'n' => char '\n' rest
    | 'r' => char '\r' rest
    | 'v' => char '\x0b' rest
    | 'A' => some (.anchor .startText, rest)
    | 'z' => some (.anchor .endText, rest)
    | 'b' => (readBoundary verbose rest).map fun (a, rest) => (.anchor a, rest)
    | 'B' => some (.anchor .notWordBoundary, rest)
    | '<' => some (.anchor .wordStart, rest)
    | '>' => some (.anchor .wordEnd, rest)
    | _ => if isEscapable c then char c rest else none

/-! ## Classes -/

/-- The class of that name. -/
def AsciiClass.ofName? : String → Option AsciiClass
  | "alnum" => some .alnum
  | "alpha" => some .alpha
  | "ascii" => some .ascii
  | "blank" => some .blank
  | "cntrl" => some .cntrl
  | "digit" => some .digit
  | "graph" => some .graph
  | "lower" => some .lower
  | "print" => some .print
  | "punct" => some .punct
  | "space" => some .space
  | "upper" => some .upper
  | "word" => some .word
  | "xdigit" => some .xdigit
  | _ => none

/-- Reads a class such as `[:alpha:]` after its bracket, if there is one. -/
def readAsciiClass (cs : List Char) : Option (ClassItem × List Char) :=
  match cs with
  | ':' :: rest =>
    let (negated, rest) := match rest with
      | '^' :: more => (true, more)
      | _ => (false, rest)
    match AsciiClass.ofName? (String.ofList (rest.takeWhile (· != ':'))) with
    | some kind =>
      (after? [':', ']'] (rest.dropWhile (· != ':'))).map fun rest => (.ascii negated kind, rest)
    | none => none
  | _ => none

/-- Reads one end of a range: a character or an escape. -/
def readMember (verbose : Bool) (cs : List Char) : Option (Escaped × List Char) :=
  match cs with
  | [] => none
  | '\\' :: rest => readEscape verbose rest
  | c :: rest => some (.literal ⟨c, false⟩, rest)

/-- An escape as a member of a class. -/
def Escaped.member? : Escaped → Option ClassItem
  | .literal l => some (.literal l)
  | .property negated query => some (.property negated query)
  | .letter negated kind => some (.letter negated kind)
  | .anchor _ => none

/-- What comes first after any blanks, looking past one number sign but no further into the comment
that it opens. -/
def peekBlanks : List Char → Option Char
  | [] => none
  | c :: rest =>
    if isBlank c then peekBlanks rest
    else if c == '#' then rest.find? fun d => !isBlank d
    else some c

/-- The character that decides whether a dash between members of a class stands for itself. -/
def peek (verbose : Bool) (cs : List Char) : Option Char :=
  if verbose then (peekBlanks cs).or cs.head? else cs.head?

/-- Reads a character, an escape or a range between two characters.  A dash before a closing bracket
or another dash makes no range. -/
def readRange (verbose : Bool) (cs : List Char) : Option (ClassItem × List Char) := do
  let (first, rest) ← readMember verbose cs
  let rest := skip verbose rest
  let alone : Option (ClassItem × List Char) := first.member?.map fun m => (m, rest)
  match rest with
  | [] => none
  | '-' :: more =>
    if peek verbose more == some ']' || peek verbose more == some '-' then alone
    else
      let (last, more) ← readMember verbose (skip verbose more)
      match first, last with
      | .literal a, .literal b =>
        if a.char ≤ b.char then some (.range a b, more) else none
      | _, _ => none
  | _ => alone

/-- The dashes at the start of a class stand for themselves. -/
def readDashes (verbose : Bool) : Nat → List Char → List ClassItem × List Char
  | fuel + 1, '-' :: rest =>
    let (items, rest) := readDashes verbose fuel (skip verbose rest)
    (.literal ⟨'-', false⟩ :: items, rest)
  | _, cs => ([], cs)

/-- Reads the start of a class after its bracket: negation, and the characters that stand for
themselves only there. -/
def readOpening (verbose : Bool) (cs : List Char) : Option (Bool × List ClassItem × List Char) :=
  let cs := skip verbose cs
  let (negated, cs) := match cs with
    | '^' :: rest => (true, skip verbose rest)
    | _ => (false, cs)
  let (dashes, cs) := readDashes verbose cs.length cs
  match dashes, cs with
  | _, [] => none
  | [], ']' :: rest => some (negated, [.literal ⟨']', false⟩], skip verbose rest)
  | _, _ => some (negated, dashes, cs)

/-- What stands before the members now being read: a set and the operation to apply. -/
abbrev Pending := Option (ClassSet × SetOp)

/-- The set that ends with the given members. -/
def Pending.close (p : Pending) (items : List ClassItem) : ClassSet :=
  let right := ClassSet.item (ClassItem.ofMembers items)
  match p with
  | none => right
  | some (left, kind) => .op kind left right

/-- Reads a class up to and with its closing bracket. -/
def readClass (verbose : Bool) : Nat → Pending → List ClassItem → List Char →
    Option (ClassSet × List Char)
  | 0, _, _, _ => none
  | fuel + 1, pending, items, cs =>
    match skip verbose cs with
    | [] => none
    | '[' :: rest =>
      match readAsciiClass rest with
      | some (item, rest) => readClass verbose fuel pending (items ++ [item]) rest
      | none => do
        let (negated, start, rest) ← readOpening verbose rest
        let (set, rest) ← readClass verbose fuel none start rest
        readClass verbose fuel pending (items ++ [.bracketed negated set]) rest
    | ']' :: rest => some (pending.close items, rest)
    | '&' :: '&' :: rest =>
      readClass verbose fuel (some (pending.close items, .intersection)) [] rest
    | '-' :: '-' :: rest =>
      readClass verbose fuel (some (pending.close items, .difference)) [] rest
    | '~' :: '~' :: rest =>
      readClass verbose fuel (some (pending.close items, .symmetricDifference)) [] rest
    | cs => do
      let (item, rest) ← readRange verbose cs
      readClass verbose fuel pending (items ++ [item]) rest

/-! ## Groups -/

/-- Whether a character may start the name of a group. -/
def startsName (c : Char) : Bool := c == '_' || isLetter c

/-- Whether a character may continue the name of a group. -/
def continuesName (c : Char) : Bool :=
  c == '_' || c == '.' || c == '[' || c == ']' || isAlphanumeric c

/-- Reads the name of a group up to the angle that closes it. -/
def readGroupName (cs : List Char) : Option (String × List Char) :=
  let name := cs.takeWhile (· != '>')
  match name, cs.dropWhile (· != '>') with
  | first :: others, _ :: rest =>
    if startsName first && others.all continuesName then some (String.ofList name, rest)
    else none
  | _, _ => none

/-- The flag that a letter names. -/
def Flag.ofChar? : Char → Option Flag
  | 'i' => some .caseInsensitive
  | 'm' => some .multiLine
  | 's' => some .dotMatchesNewLine
  | 'U' => some .swapGreed
  | 'u' => some .unicode
  | 'R' => some .carriageReturn
  | 'x' => some .verbose
  | _ => none

/-- Reads switches up to the colon or parenthesis that ends them.  No flag comes twice, and one
minus sign at most turns the flags after it off. -/
def readSwitches (on : Bool) (seen : Switches) : List Char → Option (Switches × List Char)
  | [] => none
  | ':' :: rest => some (seen, ':' :: rest)
  | ')' :: rest => some (seen, ')' :: rest)
  | '-' :: rest =>
    match on, rest with
    | false, _ => none
    | true, ':' :: _ => none
    | true, ')' :: _ => none
    | true, _ => readSwitches false seen rest
  | c :: rest =>
    match Flag.ofChar? c with
    | none => none
    | some f =>
      if (seen.state? f).isSome then none else readSwitches on (seen ++ [(f, on)]) rest

/-- What a parenthesis opens. -/
inductive GroupOpening where
  | group (kind : GroupKind)
  | switches (s : Switches)

/-- Whether the text looks around instead of matching, which patterns cannot do. -/
def looksAround (cs : List Char) : Bool :=
  [['?', '='], ['?', '!'], ['?', '<', '='], ['?', '<', '!']].any fun p => (after? p cs).isSome

/-- Reads what follows an opening parenthesis. -/
def readGroupOpening (cs : List Char) : Option (GroupOpening × List Char) :=
  if looksAround cs then none
  else
    match (after? ['?', 'P', '<'] cs).orElse fun _ => after? ['?', '<'] cs with
    | some rest => (readGroupName rest).map fun (name, rest) => (.group (.named name), rest)
    | none =>
      match cs with
      | '?' :: rest =>
        match readSwitches true [] rest with
        | some (s, ')' :: rest) => if s.isEmpty then none else some (.switches s, rest)
        | some (s, _ :: rest) => some (.group (.switching s), rest)
        | _ => none
      | _ => some (.group .plain, cs)

/-! ## Expressions -/

/-- Splits off the last part, which a repetition applies to; flags cannot be repeated. -/
def splitLast? (parts : List Written) : Option (List Written × Written) :=
  match parts.getLast? with
  | none => none
  | some .empty => none
  | some (.flags _) => none
  | some part => some (parts.dropLast, part)

/-- An escape as a part of an expression. -/
def Escaped.toWritten : Escaped → Written
  | .literal l => .literal l
  | .anchor a => .anchor a
  | .property negated query => .property negated query
  | .letter negated kind => .letter negated kind

/-- Reads alternatives up to a closing parenthesis or the end of the text, with the branches and
the parts of the current branch read so far.  Returns the mode in force at the end, too. -/
def readBranches : Nat → Bool → List Written → List Written → List Char →
    Option (Written × List Char)
  | 0, _, _, _, _ => none
  | fuel + 1, verbose, branches, parts, cs =>
    let go (verbose : Bool) (parts : List Written) (rest : List Char) :=
      readBranches fuel verbose branches parts rest
    let repeated (least : Nat) (most : Option Nat) (rest : List Char) :=
      (splitLast? parts).bind fun (before, body) =>
        let (greedy, rest) := readGreed rest
        go verbose (before ++ [.repetition least most greedy body]) rest
    match skip verbose cs with
    | [] => some (.ofBranches (branches ++ [.ofParts parts]), [])
    | ')' :: rest => some (.ofBranches (branches ++ [.ofParts parts]), ')' :: rest)
    | '|' :: rest => readBranches fuel verbose (branches ++ [.ofParts parts]) [] rest
    | '(' :: rest =>
      match readGroupOpening (skip verbose rest) with
      | none => none
      | some (.switches s, rest) =>
        go ((s.state? .verbose).getD verbose) (parts ++ [.flags s]) rest
      | some (.group kind, rest) =>
        let inner := match kind with
          | .switching s => (s.state? .verbose).getD verbose
          | _ => verbose
        match readBranches fuel inner [] [] rest with
        | some (body, ')' :: rest) => go verbose (parts ++ [.group kind body]) rest
        | _ => none
    | '[' :: rest =>
      match readOpening verbose rest with
      | none => none
      | some (negated, start, rest) =>
        match readClass verbose fuel none start rest with
        | none => none
        | some (set, rest) => go verbose (parts ++ [.bracketed negated set]) rest
    | '?' :: rest => repeated 0 (some 1) rest
    | '*' :: rest => repeated 0 none rest
    | '+' :: rest => repeated 1 none rest
    | '\x7b' :: rest =>
      match splitLast? parts, readBounds verbose rest with
      | some (before, body), some (least, most, greedy, rest) =>
        go verbose (before ++ [.repetition least most greedy body]) rest
      | _, _ => none
    | '\\' :: rest =>
      match readEscape verbose rest with
      | none => none
      | some (e, rest) => go verbose (parts ++ [e.toWritten]) rest
    | '.' :: rest => go verbose (parts ++ [.dot]) rest
    | '^' :: rest => go verbose (parts ++ [.anchor .startLine]) rest
    | '$' :: rest => go verbose (parts ++ [.anchor .endLine]) rest
    | c :: rest => go verbose (parts ++ [.literal ⟨c, false⟩]) rest

/-- Reads a whole pattern; no two groups may have the same name. -/
def Written.read? (text : List Char) : Option Written :=
  match readBranches (text.length + 1) false [] [] text with
  | some (w, []) => if w.names.Nodup then some w else none
  | _ => none

end PhiCalculus.Pattern
