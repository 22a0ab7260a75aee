import PhiCalculus.Log.Line
import PhiCalculus.Number.Digits
import PhiCalculus.Number.Real
import PhiCalculus.Pattern.Meaning
import PhiCalculus.Pattern.Reader
import PhiCalculus.Text.Blank
import PhiCalculus.Text.Letter

/-!
# Log directives

A directive is a level for everything, or a target with a level for it and for what is below it.
Brackets after the target name a span of the program that must be going on, and braces inside them
a field that the span or the line must have: `target[span{field=value}]=level`.

A directive is read without the blanks around it, but its parts are cut out of the whole text at
the places that were found; so blanks before a directive push its parts aside.
-/

set_option autoImplicit false

namespace PhiCalculus

open Text

/-! ## Levels -/

/-- Reads a level by its rank or by its name; a level that is left out shows errors. -/
def LogLevel.ofText? (text : String) : Option LogLevel :=
  let digits := match text.toList with
    | '+' :: rest => rest
    | cs => cs
  if !digits.isEmpty && digits.all Number.isDecimal then
    ofRank? (Number.decimalValue 0 digits)
  else if text.isEmpty then some .error
  else ofName? text

/-! ## Fields -/

/-- A field that is asked for, and the value that it is to have if one is named. -/
structure LogField where
  name : String
  value : Option String
  deriving Repr, DecidableEq

mutual

/-- Whether the expression asks for boundaries of words in all alphabets. -/
def Pattern.Regular.seeksWords : Pattern.Regular → Bool
  | .look (.word _ unicode) => unicode
  | .group body => body.seeksWords
  | .repetition _ _ _ body => body.seeksWords
  | .alternation branches => Pattern.Regular.anySeeksWords branches
  | .concat parts => Pattern.Regular.anySeeksWords parts
  | _ => false

def Pattern.Regular.anySeeksWords : List Pattern.Regular → Bool
  | [] => false
  | r :: rest => r.seeksWords || Pattern.Regular.anySeeksWords rest

end

namespace LogField

/-- The deepest nesting of a pattern that stands for a value. -/
def nestLimit : Nat := 250

/-- Whether a text describes values: it is a number, or a pattern without boundaries of words. -/
def describesValues (text : String) : Bool :=
  match Number.readReal text.toList with
  | .ok _ => true
  | .error _ =>
    match Pattern.Written.read? text.toList with
    | none => false
    | some w =>
      match w.regular? {} with
      | some (r, _) => w.depth ≤ nestLimit && !r.seeksWords
      | none => false

/-- Reads a field: a name, and a value after an equals sign. -/
def ofText? (text : String) : Option LogField :=
  match text.splitOn "=" with
  | [] => none
  | [name] => some ⟨name, none⟩
  | name :: value :: _ => if describesValues value then some ⟨name, some value⟩ else none

end LogField

/-! ## Directives -/

/-- A level for the lines of some targets, perhaps only within some spans. -/
structure LogDirective where
  /-- What the targets start with. -/
  target : String := ""
  span : Option String := none
  field : Option LogField := none
  level : LogLevel := .trace
  deriving Repr, DecidableEq

namespace LogDirective

/-- What is being read at some place of a directive, and where it began. -/
inductive Stage where
  | opening
  | word
  | span (start : Nat)
  | field (start : Nat)
  | fieldEnd
  | spanEnd
  | level (start : Nat)
  deriving Repr, DecidableEq

/-- Splits a text after so many bytes, unless a character stands across that place. -/
def cutAt? : List Char → Nat → Option (List Char × List Char)
  | cs, 0 => some ([], cs)
  | [], _ + 1 => none
  | c :: rest, n + 1 =>
    if n + 1 < c.utf8Size then none
    else (cutAt? rest (n + 1 - c.utf8Size)).map fun (left, right) => (c :: left, right)

/-- The part of a text from one place to another, counted in bytes. -/
def partOf? (text : List Char) (start finish : Nat) : Option String := do
  let (left, _) ← cutAt? text finish
  let (_, part) ← cutAt? left start
  some (String.ofList part)

/-- Whether a character can open a target or a level. -/
def isOpening (c : Char) : Bool := c == '-' || c == ':' || c == '_' || isAlphanumeric c

/-- Reads a character of a directive at some place. -/
def step (text : List Char) (place : Nat) (c : Char) :
    Stage × LogDirective → Option (Stage × LogDirective)
  | (.opening, d) =>
    if c == '[' then some (.span (place + 1), d)
    else if isOpening c then some (.word, d)
    else none
  | (.word, d) =>
    if c == '=' then
      (partOf? text 0 place).map fun t => (.level (place + 1), { d with target := t })
    else if c == '[' then
      (partOf? text 0 place).map fun t => (.span (place + 1), { d with target := t })
    else some (.word, d)
  | (.span start, d) =>
    if c == ']' then
      (partOf? text start place).map fun s => (.spanEnd, { d with span := some s })
    else if c == '\x7b' then
      (partOf? text start place).map fun s =>
        (.field (place + 1), { d with span := if s.isEmpty then none else some s })
    else some (.span start, d)
  | (.field start, d) =>
    if c == '\x7d' then do
      let text ← partOf? text start place
      if text.isEmpty then none
      else (LogField.ofText? text).map fun f => (.fieldEnd, { d with field := some f })
    else some (.field start, d)
  | (.fieldEnd, d) => if c == ']' then some (.spanEnd, d) else none
  | (.spanEnd, d) => if c == '=' then some (.level (place + 1), d) else none
  | (.level start, d) => some (.level start, d)

/-- Reads the characters of a directive from some place on. -/
def scan (text : List Char) (place : Nat) (state : Stage × LogDirective) :
    List Char → Option (Stage × LogDirective)
  | [] => some state
  | c :: rest => (step text place c state).bind fun next => scan text (place + c.utf8Size) next rest

/-- Reads a directive.  A word alone is a level if it can be read as one and a target otherwise; a
target without a level is shown in full. -/
def ofText? (text : String) : Option LogDirective :=
  let cs := text.toList
  match scan cs 0 (.opening, {}) (trim cs) with
  | some (.word, d) =>
    match LogLevel.ofText? text with
    | some l => some { d with level := l }
    | none => some { d with target := text }
  | some (.level start, d) => do
    let (_, level) ← cutAt? cs start
    if level.isEmpty then some d
    else (LogLevel.ofText? (String.ofList level)).map fun l => { d with level := l }
  | some (.spanEnd, d) => some d
  | _ => none

end LogDirective

end PhiCalculus
