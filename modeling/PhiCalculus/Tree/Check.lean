import PhiCalculus.Tree

/-!
# Well-formed programs

A program is checked before it runs.  The check walks the trees depth first, parameters before
attributes and a node before what follows it, and reports the first thing that is wrong with the
line where it is.
-/

set_option autoImplicit false

namespace PhiCalculus

/-! ## Faults -/

/-- What is wrong with a program. -/
inductive TreeFault where
  | unknownType (name : String) (line : Nat)
  | invalidLiteral (type text : String) (fault : LiteralFault) (line : Nat)
  | duplicateAttribute (object attr : String) (line : Nat)
  | reservedName (name : String) (line : Nat)
  | misplacedVararg (name : String) (line : Nat)
  | missingReceiver (method : String) (line : Nat)
  | unnamedObject (line : Nat)
  | unnamedAttribute (line : Nat)
  | notAnAbstraction (name : String) (line : Nat)
  | missingRoot (name : String)
  deriving Repr, DecidableEq

namespace TreeFault

/-- A fault as it is shown. -/
def message : TreeFault → String
  | unknownType name line =>
    "Unknown data type '" ++ name ++ "' at line " ++ toString line
  | invalidLiteral type text fault line =>
    "Invalid " ++ type ++ " literal '" ++ text ++ "' at line " ++ toString line ++ ": " ++
      fault.message
  | duplicateAttribute object attr line =>
    "Duplicate attribute '" ++ attr ++ "' in '" ++ object ++ "' at line " ++ toString line
  | reservedName name line =>
    "The name '" ++ name ++ "' is reserved and can't be declared (line " ++ toString line ++ ")"
  | misplacedVararg name line =>
    "Only the last parameter may be vararg, '" ++ name ++ "' is not (line " ++ toString line ++ ")"
  | missingReceiver method line =>
    "Method '." ++ method ++ "' has no receiver at line " ++ toString line
  | unnamedObject line => "Top-level object at line " ++ toString line ++ " must have a name"
  | unnamedAttribute line => "Attribute at line " ++ toString line ++ " must have a name"
  | notAnAbstraction name line =>
    "Top-level object '" ++ name ++ "' at line " ++ toString line ++ " must be an abstraction"
  | missingRoot name => "There is no object '" ++ name ++ "' to run"

/-- The line of the fault; a missing root is on none. -/
def line : TreeFault → Option Nat
  | unknownType _ l => some l
  | invalidLiteral _ _ _ l => some l
  | duplicateAttribute _ _ l => some l
  | reservedName _ l => some l
  | misplacedVararg _ l => some l
  | missingReceiver _ l => some l
  | unnamedObject l => some l
  | unnamedAttribute l => some l
  | notAnAbstraction _ l => some l
  | missingRoot _ => none

end TreeFault

/-! ## Checking -/

/-- A name that may be declared. -/
def checkName (name : String) (line : Nat) : Except TreeFault Unit :=
  if reserved.contains name then .error (.reservedName name line) else .ok ()

/-- Checks parameters; returns the names seen before and with them. -/
def checkParams (object : String) (line : Nat) (seen : List String) :
    List Parameter → Except TreeFault (List String)
  | [] => .ok seen
  | p :: rest => do
    checkName p.name line
    if p.vararg && !rest.isEmpty then .error (.misplacedVararg p.name line)
    else if seen.contains p.name then .error (.duplicateAttribute object p.name line)
    else checkParams object line (p.name :: seen) rest

/-- Checks the literal of a node. -/
def checkLiteral (line : Nat) (type text : String) : Except TreeFault Unit :=
  match TypeTag.ofName? type with
  | none => .error (.unknownType type line)
  | some tag =>
    match Value.parse tag text with
    | .error fault => .error (.invalidLiteral type text fault line)
    | .ok _ => .ok ()

/-- A method needs an argument to be a method of. -/
def checkReceiver (line : Nat) (base : Base) (args : List Node) : Except TreeFault Unit :=
  match base, args with
  | .method name, [] => .error (.missingReceiver name line)
  | _, _ => .ok ()

mutual

/-- Checks a node and everything below it. -/
def Node.check : Node → Except TreeFault Unit
  | .abstraction name line params attrs => do
    let seen ← checkParams (name.getD "[]") line [] params
    Node.checkAttrs (name.getD "[]") seen attrs
  | .application _ line base args _ _ => do
    checkReceiver line base args
    Node.checkArgs args
  | .data _ line type value => checkLiteral line type value

/-- Checks the attributes of an object that declares the names seen before. -/
def Node.checkAttrs (object : String) (seen : List String) : List Node → Except TreeFault Unit
  | [] => .ok ()
  | n :: rest =>
    match n.name with
    | none => .error (.unnamedAttribute n.line)
    | some name => do
      checkName name n.line
      if seen.contains (attrName name) then .error (.duplicateAttribute object name n.line)
      else do
        n.check
        Node.checkAttrs object (attrName name :: seen) rest

/-- Checks arguments, and the names of those that have one. -/
def Node.checkArgs : List Node → Except TreeFault Unit
  | [] => .ok ()
  | n :: rest => do
    match n.name with
    | some name => checkName name n.line
    | none => .ok ()
    n.check
    Node.checkArgs rest

end

/-- Checks top-level objects of a program that has the names seen before. -/
def checkObjects (program : String) (seen : List String) : List Node → Except TreeFault Unit
  | [] => .ok ()
  | n :: rest =>
    match n.name with
    | none => .error (.unnamedObject n.line)
    | some name => do
      if !n.isAbstraction then .error (.notAnAbstraction name n.line)
      else if seen.contains name then .error (.duplicateAttribute program name n.line)
      else do
        n.check
        checkObjects program (name :: seen) rest

namespace Program

/-- Checks a whole program. -/
def check (p : Program) : Except TreeFault Unit := checkObjects p.name [] p.objects

/-! ## Roots -/

/-- Whether the program has an object of that name. -/
def has (p : Program) (name : String) : Bool := p.objects.any fun n => n.name == some name

/-- The object to run: the one asked for, else the one named like the program, else the first. -/
def root (p : Program) : Option String → Except TreeFault String
  | some name => if p.has name then .ok name else .error (.missingRoot name)
  | none =>
    if p.has p.name then .ok p.name
    else
      match p.objects.head?.bind Node.name with
      | some name => .ok name
      | none => .error (.missingRoot p.name)

end Program

end PhiCalculus
