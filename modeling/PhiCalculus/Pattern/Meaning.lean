import PhiCalculus.Pattern.Property.Age
import PhiCalculus.Pattern.Property.Binary
import PhiCalculus.Pattern.Property.Category
import PhiCalculus.Pattern.Property.Folding
import PhiCalculus.Pattern.Property.Script
import PhiCalculus.Pattern.Property.ScriptExtension
import PhiCalculus.Pattern.Property.Segment
import PhiCalculus.Pattern.Regular
import PhiCalculus.Pattern.Written

/-!
# What a pattern means

The flags in force decide what a written pattern stands for.  Its meaning is a regular expression
over sets of characters, with conditions on places in the text; flags and classes are gone.

A pattern may still turn out to have no meaning: it asks for a property that does not exist, or it
leaves Unicode mode and then asks for bytes that are not ASCII.
-/

set_option autoImplicit false

namespace PhiCalculus.Pattern

open Text

/-! ## Flags in force -/

/-- The flags in force at some place of a pattern. -/
structure Modes where
  caseInsensitive : Bool := false
  multiLine : Bool := false
  dotMatchesNewLine : Bool := false
  swapGreed : Bool := false
  unicode : Bool := true
  carriageReturn : Bool := false
  deriving Repr, DecidableEq

/-- Turns one flag on or off. -/
def Modes.set (m : Modes) (f : Flag) (on : Bool) : Modes :=
  match f with
  | .caseInsensitive => { m with caseInsensitive := on }
  | .multiLine => { m with multiLine := on }
  | .dotMatchesNewLine => { m with dotMatchesNewLine := on }
  | .swapGreed => { m with swapGreed := on }
  | .unicode => { m with unicode := on }
  | .carriageReturn => { m with carriageReturn := on }
  | .verbose => m

def Modes.apply (m : Modes) (s : Switches) : Modes :=
  s.foldl (fun m item => m.set item.1 item.2) m

/-! ## Sets of characters -/

/-- The digits, the blanks and the characters of words. -/
def LetterClass.set : LetterClass → CodeSet
  | .digit => Property.unionOf Property.categories ["nd"]
  | .space => Property.unionOf Property.binaries ["wspace"]
  | .word =>
    (Property.unionOf Property.binaries ["alpha", "joinc"]).union
      (Property.unionOf Property.categories ["mc", "me", "mn", "nd", "pc"])

/-- The same classes within ASCII. -/
def LetterClass.asciiSet : LetterClass → CodeSet
  | .digit => CodeSet.ofTable "30-39"
  | .space => CodeSet.ofTable "9-d 20"
  | .word => CodeSet.ofTable "30-39 41-5a 5f 61-7a"

/-- The characters of a class named in brackets and colons. -/
def AsciiClass.set : AsciiClass → CodeSet
  | .alnum => CodeSet.ofTable "30-39 41-5a 61-7a"
  | .alpha => CodeSet.ofTable "41-5a 61-7a"
  | .ascii => CodeSet.ofTable "0-7f"
  | .blank => CodeSet.ofTable "9 20"
  | .cntrl => CodeSet.ofTable "0-1f 7f"
  | .digit => CodeSet.ofTable "30-39"
  | .graph => CodeSet.ofTable "21-7e"
  | .lower => CodeSet.ofTable "61-7a"
  | .print => CodeSet.ofTable "20-7e"
  | .punct => CodeSet.ofTable "21-2f 3a-40 5b-60 7b-7e"
  | .space => CodeSet.ofTable "9-d 20"
  | .upper => CodeSet.ofTable "41-5a"
  | .word => CodeSet.ofTable "30-39 41-5a 5f 61-7a"
  | .xdigit => CodeSet.ofTable "30-39 41-46 61-66"

/-- A name as names are compared: in lower case, without separators and without a leading `is`. -/
def plainName (name : String) : String :=
  let significant (c : Char) := c != ' ' && c != '_' && c != '-' && c.toNat < 128
  let plain (cs : List Char) := (cs.filter significant).map Char.toLower
  match name.toList with
  | i :: s :: rest =>
    if i.toLower == 'i' && s.toLower == 's' then
      let name := String.ofList (plain rest)
      if name == "c" then "isc" else name
    else String.ofList (plain (i :: s :: rest))
  | cs => String.ofList (plain cs)

/-- The general categories that a name of a group of categories stands for. -/
def categoriesOf : String → List String
  | "l" | "letter" => ["lu", "ll", "lt", "lm", "lo"]
  | "lc" | "casedletter" => ["lu", "ll", "lt"]
  | "m" | "mark" | "combiningmark" => ["mc", "me", "mn"]
  | "n" | "number" => ["nd", "nl", "no"]
  | "p" | "punctuation" | "punct" => ["pc", "pd", "pe", "pf", "pi", "po", "ps"]
  | "s" | "symbol" => ["sc", "sk", "sm", "so"]
  | "z" | "separator" => ["zl", "zp", "zs"]
  | "c" | "other" => ["cc", "cf", "cn", "co"]
  | _ => []

/-- The characters of a general category or of a group of them. -/
def categorySet? (name : String) : Option CodeSet :=
  match name with
  | "any" => some (CodeSet.range 0 lastCode)
  | "assigned" => some (Property.unionOf Property.categories ["cn"]).complement
  | "ascii" => some (CodeSet.range 0 0x7F)
  | _ =>
    match categoriesOf name with
    | [] => (Property.find? Property.categories name).map Property.Named.set
    | names => some (Property.unionOf Property.categories names)

/-- The characters of a script. -/
def scriptSet? (name : String) : Option CodeSet :=
  (Property.find? Property.scripts name).map Property.Named.set

/-- The characters used in a script. -/
def scriptExtensionSet? (name : String) : Option CodeSet :=
  match Property.find? Property.scripts name, Property.find? Property.scriptExtensions name with
  | none, _ => none
  | some own, none => some own.set
  | some own, some more =>
    if own.names.contains "common" || own.names.contains "inherited" then some more.set
    else some (own.set.union more.set)

/-- The characters that the versions up to one have. -/
def ageSet? (name : String) : Option CodeSet :=
  let (before, rest) := Property.ages.span fun version => !version.names.contains name
  match rest with
  | [] => none
  | version :: _ => some (Property.unionOf Property.ages
      ((before ++ [version]).flatMap Property.Named.names))

/-- The characters that have a property, or that have the value named by it. -/
def PropertyQuery.set? : PropertyQuery → Option CodeSet
  | .named name =>
    let name := plainName name
    let binary :=
      if name == "cf" || name == "sc" || name == "lc" then none
      else (Property.find? Property.binaries name).map Property.Named.set
    (binary.orElse fun _ => categorySet? name).orElse fun _ => scriptSet? name
  | .valued name _ value =>
    let value := plainName value
    let listed (entries : List Property.Named) :=
      (Property.find? entries value).map Property.Named.set
    match plainName name with
    | "gc" | "generalcategory" => categorySet? value
    | "sc" | "script" => scriptSet? value
    | "scx" | "scriptextensions" => scriptExtensionSet? value
    | "age" => ageSet? value
    | "gcb" | "graphemeclusterbreak" => listed Property.graphemeBreaks
    | "wb" | "wordbreak" => listed Property.wordBreaks
    | "sb" | "sentencebreak" => listed Property.sentenceBreaks
    | _ => none

/-- Whether a query asks for the characters that lack what it names. -/
def PropertyQuery.excludes : PropertyQuery → Bool
  | .named _ => false
  | .valued _ equal _ => !equal

/-- Adds to a set the letters that differ from its own in case alone. -/
def foldUnicode (s : CodeSet) : CodeSet :=
  let found := Property.caseGroups.filter fun group => group.any s.contains
  s.union (CodeSet.ofList (found.flatMap fun group => group.map fun c => (c, c)))

/-- Adds to a set within ASCII the letters of the other case. -/
def foldAscii (s : CodeSet) : CodeSet :=
  let shifted (first last : Nat) (shift : Nat → Nat) :=
    (s.inter (CodeSet.range first last)).toList.map fun r => (shift r.1, shift r.2)
  s.union (CodeSet.ofList (shifted 65 90 (· + 32) ++ shifted 97 122 (· - 32)))

/-- Adds the letters of the other case if case does not matter. -/
def Modes.fold (m : Modes) (s : CodeSet) : CodeSet :=
  if !m.caseInsensitive then s else if m.unicode then foldUnicode s else foldAscii s

/-- A set as a class, negated or not.  Outside Unicode mode the complement would hold bytes that
are no characters, so there is none. -/
def Modes.negate? (m : Modes) (negated : Bool) (s : CodeSet) : Option CodeSet :=
  if !negated then some s else if m.unicode then some s.complement else none

/-- The characters of a letter class. -/
def Modes.letter? (m : Modes) (negated : Bool) (kind : LetterClass) : Option CodeSet :=
  m.negate? negated (if m.unicode then kind.set else kind.asciiSet)

/-- The characters with a property, which only Unicode mode knows. -/
def Modes.property? (m : Modes) (negated : Bool) (query : PropertyQuery) : Option CodeSet :=
  if m.unicode then query.set?.bind fun s => m.negate? (negated != query.excludes) (m.fold s)
  else none

/-- The code of a character of a class; outside Unicode mode it must be ASCII. -/
def Modes.code? (m : Modes) (l : Literal) : Option Nat :=
  if m.unicode || l.char.toNat < 128 then some l.char.toNat else none

mutual

/-- The characters of the inside of a class. -/
def ClassSet.chars? (m : Modes) : ClassSet → Option CodeSet
  | .item i => i.chars? m
  | .op kind left right => do
    let a := m.fold (← left.chars? m)
    let b := m.fold (← right.chars? m)
    match kind with
    | .intersection => some (a.inter b)
    | .difference => some (a.diff b)
    | .symmetricDifference => some (a.symmDiff b)

/-- The characters of a member of a class. -/
def ClassItem.chars? (m : Modes) : ClassItem → Option CodeSet
  | .empty => some CodeSet.empty
  | .literal l => (m.code? l).map CodeSet.single
  | .range first last => do
    let a ← m.code? first
    let b ← m.code? last
    some (CodeSet.range a b)
  | .ascii negated kind => m.negate? negated (m.fold kind.set)
  | .property negated query => m.property? negated query
  | .letter negated kind => m.letter? negated kind
  | .bracketed negated set => (set.chars? m).bind fun s => m.negate? negated (m.fold s)
  | .union items => ClassItem.charsOf? m items

def ClassItem.charsOf? (m : Modes) : List ClassItem → Option CodeSet
  | [] => some CodeSet.empty
  | i :: rest => do
    let a ← i.chars? m
    let b ← ClassItem.charsOf? m rest
    some (a.union b)

end

/-! ## Expressions -/

/-- What a character stands for. -/
def Modes.literal? (m : Modes) (l : Literal) : Option Regular :=
  let c := l.char.toNat
  if !m.unicode && l.hexPair && 127 < c then none
  else if m.unicode || c < 128 then some (.ofSet (m.fold (CodeSet.single c)))
  else some (.word [l.char])

/-- What a dot stands for. -/
def Modes.dot? (m : Modes) : Option Regular :=
  if !m.unicode then none
  else if m.dotMatchesNewLine then some (.ofSet (CodeSet.range 0 lastCode))
  else if m.carriageReturn then some (.ofSet (CodeSet.ofTable "a d").complement)
  else some (.ofSet (CodeSet.single 10).complement)

/-- What an anchor stands for. -/
def Modes.look (m : Modes) : Anchor → Look
  | .startLine => if m.multiLine then .lineStart m.carriageReturn else .textStart
  | .endLine => if m.multiLine then .lineEnd m.carriageReturn else .textEnd
  | .startText => .textStart
  | .endText => .textEnd
  | .wordBoundary => .word .either m.unicode
  | .notWordBoundary => .word .neither m.unicode
  | .wordStart => .word .start m.unicode
  | .wordEnd => .word .finish m.unicode
  | .wordStartHalf => .word .startHalf m.unicode
  | .wordEndHalf => .word .finishHalf m.unicode

mutual

/-- The meaning of a written expression, and the flags in force after it. -/
def Written.regular? (m : Modes) : Written → Option (Regular × Modes)
  | .empty => some (.empty, m)
  | .flags s => some (.empty, m.apply s)
  | .literal l => (m.literal? l).map fun r => (r, m)
  | .dot => m.dot?.map fun r => (r, m)
  | .anchor a => some (.look (m.look a), m)
  | .property negated query => (m.property? negated query).map fun s => (.ofSet s, m)
  | .letter negated kind => (m.letter? negated kind).map fun s => (.ofSet s, m)
  | .bracketed negated set => do
    let s ← set.chars? m
    let s ← m.negate? negated (m.fold s)
    some (.ofSet s, m)
  | .repetition least most greedy body => do
    let (r, after) ← body.regular? m
    some (.repeated least most (greedy != m.swapGreed) r, after)
  | .group kind body =>
    match kind with
    | .switching s => (body.regular? (m.apply s)).map fun (r, _) => (r, m)
    | _ => (body.regular? m).map fun (r, _) => (.group r, m)
  | .alternation branches => do
    let (rs, after) ← Written.regulars? m branches
    some (.choice rs, after)
  | .concat parts => do
    let (rs, after) ← Written.regulars? m parts
    some (.row rs, after)

def Written.regulars? (m : Modes) : List Written → Option (List Regular × Modes)
  | [] => some ([], m)
  | w :: rest => do
    let (r, m) ← w.regular? m
    let (rs, m) ← Written.regulars? m rest
    some (r :: rs, m)

end

end PhiCalculus.Pattern
