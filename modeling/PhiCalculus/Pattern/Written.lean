/-!
# Patterns as they are written

The shape of a regular expression as its author wrote it: groups, flags, classes with their set
operations, and repetitions.  What the flags in force make of each part is decided later, when the
written form is given its meaning.
-/

set_option autoImplicit false

namespace PhiCalculus.Pattern

/-! ## Flags -/

/-- A setting that a pattern can switch for a part of itself. -/
inductive Flag where
  | caseInsensitive
  | multiLine
  | dotMatchesNewLine
  | swapGreed
  | unicode
  | carriageReturn
  | verbose
  deriving Repr, DecidableEq

/-- A list of switches: each flag is turned on or off. -/
abbrev Switches := List (Flag × Bool)

/-- What the switches say about a flag, if anything. -/
def Switches.state? (s : Switches) (f : Flag) : Option Bool :=
  (s.find? fun item => item.1 == f).map (·.2)

/-! ## Classes -/

/-- A character that stands for itself; `hexPair` if it was written as `\xNN`, which names a byte
where characters outside ASCII are not wanted. -/
structure Literal where
  char : Char
  hexPair : Bool := false
  deriving Repr, DecidableEq

/-- The classes with a letter of their own: `\d`, `\s` and `\w`. -/
inductive LetterClass where
  | digit
  | space
  | word
  deriving Repr, DecidableEq

/-- The classes written `[:name:]`, all within ASCII. -/
inductive AsciiClass where
  | alnum | alpha | ascii | blank | cntrl | digit | graph | lower | print | punct | space | upper
  | word | xdigit
  deriving Repr, DecidableEq

/-- How a Unicode property is asked for: by one name, or by a name and the value that it is to have
or not to have. -/
inductive PropertyQuery where
  | named (name : String)
  | valued (name : String) (equal : Bool) (value : String)
  deriving Repr, DecidableEq

/-- An operation between two sets of a class. -/
inductive SetOp where
  | intersection
  | difference
  | symmetricDifference
  deriving Repr, DecidableEq

mutual

/-- The inside of a bracketed class. -/
inductive ClassSet where
  | item (i : ClassItem)
  | op (kind : SetOp) (left right : ClassSet)

/-- One member of a class. -/
inductive ClassItem where
  | empty
  | literal (l : Literal)
  | range (first last : Literal)
  | ascii (negated : Bool) (kind : AsciiClass)
  | property (negated : Bool) (query : PropertyQuery)
  | letter (negated : Bool) (kind : LetterClass)
  | bracketed (negated : Bool) (set : ClassSet)
  | union (items : List ClassItem)

end

/-! ## Expressions -/

/-- A condition on a place in the text. -/
inductive Anchor where
  | startLine
  | endLine
  | startText
  | endText
  | wordBoundary
  | notWordBoundary
  | wordStart
  | wordEnd
  | wordStartHalf
  | wordEndHalf
  deriving Repr, DecidableEq

/-- What a pair of parentheses is for. -/
inductive GroupKind where
  | plain
  | named (name : String)
  | switching (switches : Switches)
  deriving Repr, DecidableEq

/-- A regular expression as it is written. -/
inductive Written where
  | empty
  | flags (switches : Switches)
  | literal (l : Literal)
  | dot
  | anchor (a : Anchor)
  | property (negated : Bool) (query : PropertyQuery)
  | letter (negated : Bool) (kind : LetterClass)
  | bracketed (negated : Bool) (set : ClassSet)
  | repetition (least : Nat) (most : Option Nat) (greedy : Bool) (body : Written)
  | group (kind : GroupKind) (body : Written)
  | alternation (branches : List Written)
  | concat (parts : List Written)

/-- Parts in a row; one part alone is that part. -/
def Written.ofParts : List Written → Written
  | [] => .empty
  | [part] => part
  | parts => .concat parts

/-- Alternatives; one branch alone is that branch. -/
def Written.ofBranches : List Written → Written
  | [] => .empty
  | [branch] => branch
  | branches => .alternation branches

/-- Members of a class; one member alone is that member. -/
def ClassItem.ofMembers : List ClassItem → ClassItem
  | [] => .empty
  | [member] => member
  | members => .union members

/-! ## Nesting -/

mutual

/-- How deep a set is nested. -/
def ClassSet.depth : ClassSet → Nat
  | .item i => i.depth
  | .op _ left right => max left.depth right.depth + 1

/-- How deep a member of a class is nested; single characters and named classes count for
nothing. -/
def ClassItem.depth : ClassItem → Nat
  | .bracketed _ set => set.depth + 1
  | .union items => ClassItem.depths items + 1
  | _ => 0

def ClassItem.depths : List ClassItem → Nat
  | [] => 0
  | i :: rest => max i.depth (ClassItem.depths rest)

end

mutual

/-- How deep an expression is nested: every group, repetition, class, sequence and choice counts
for one. -/
def Written.depth : Written → Nat
  | .bracketed _ set => set.depth + 1
  | .repetition _ _ _ body => body.depth + 1
  | .group _ body => body.depth + 1
  | .alternation branches => Written.depths branches + 1
  | .concat parts => Written.depths parts + 1
  | _ => 0

def Written.depths : List Written → Nat
  | [] => 0
  | w :: rest => max w.depth (Written.depths rest)

end

mutual

/-- The names of the groups, in order. -/
def Written.names : Written → List String
  | .repetition _ _ _ body => body.names
  | .group (.named name) body => name :: body.names
  | .group _ body => body.names
  | .alternation branches => Written.namesOf branches
  | .concat parts => Written.namesOf parts
  | _ => []

def Written.namesOf : List Written → List String
  | [] => []
  | w :: rest => w.names ++ Written.namesOf rest

end

end PhiCalculus.Pattern
