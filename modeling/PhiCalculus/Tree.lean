import PhiCalculus.Eval.Run

/-!
# Program trees

A program is a list of named objects, each written as a tree.  A node of the tree is an abstraction
with parameters and attributes, an application of a base to arguments, or a literal.

Each tree is an expression: an abstraction builds an object, an application binds its arguments one
by one.  The top-level abstractions become the global objects of a runtime.
-/

set_option autoImplicit false

namespace PhiCalculus

/-! ## Trees -/

/-- A parameter of an abstraction. -/
structure Parameter where
  name : String
  /-- Whether it takes any number of arguments. -/
  vararg : Bool := false
  deriving Repr, DecidableEq

/-- What an application starts from. -/
inductive Base where
  /-- A name in scope. -/
  | ref (name : String)
  /-- A method of the first argument. -/
  | method (name : String)
  | xi
  | rho
  | sigma
  /-- The arguments, as one array. -/
  | array
  deriving Repr, DecidableEq

/-- A node of a program tree.  Its name is the name of an attribute or of an argument; its line is
where it stands in the text of the program. -/
inductive Node where
  | abstraction (name : Option String) (line : Nat) (params : List Parameter) (attrs : List Node)
  | application (name : Option String) (line : Nat) (base : Base) (args : List Node)
      (copy unvar : Bool)
  | data (name : Option String) (line : Nat) (type value : String)

namespace Node

def name : Node → Option String
  | abstraction n _ _ _ => n
  | application n _ _ _ _ _ => n
  | data n _ _ _ => n

def line : Node → Nat
  | abstraction _ l _ _ => l
  | application _ l _ _ _ _ => l
  | data _ l _ _ => l

/-- How the object of a node is called: by its name, or by brackets when it has none. -/
def form (n : Node) : String := n.name.getD "[]"

def isAbstraction : Node → Bool
  | abstraction _ _ _ _ => true
  | _ => false

end Node

/-- A program: its name and its top-level objects. -/
structure Program where
  name : String
  objects : List Node

/-! ## Expressions of trees -/

/-- The name of an attribute as it is written: the sign `@` is another spelling of `φ`. -/
def attrName (name : String) : String := if name == "@" then phi else name

/-- The slots of parameters. -/
def Parameter.slots (params : List Parameter) : List (String × SlotExpr) :=
  params.map fun p => (p.name, if p.vararg then .vararg else .free)

/-- The key of an argument: its name, or the next open slot. -/
def argumentKey : Option String → Key
  | some name => .name (attrName name)
  | none => .position 0

/-- Binds arguments one after the other. -/
def bindAll (base : Expr) (args : List (Key × Expr)) : Expr :=
  args.foldl (fun e arg => .bind e arg.1 arg.2) base

/-- An application without its flag for spreading. -/
def applied (line : Nat) (base : Base) (copy : Bool) (args : List (Key × Expr)) : Expr :=
  let start (e : Expr) := if copy then Expr.copied e else e
  match base, args with
  | .ref name, _ => bindAll (start (.name (attrName name))) args
  | .method name, receiver :: rest => bindAll (start (.method receiver.2 (attrName name))) rest
  | .method name, [] =>
    .fail ("Method '." ++ name ++ "' has no receiver at line " ++ toString line)
  | .xi, _ => bindAll (start .self) args
  | .rho, _ => bindAll (start (.get .self PhiCalculus.rho)) args
  | .sigma, _ => bindAll (start (.get .self PhiCalculus.sigma)) args
  | .array, _ => start (.array (args.map (·.2)))

mutual

/-- The expression of a node. -/
def Node.expr : Node → Expr
  | .abstraction name _ params attrs =>
    .build (name.getD "[]") (some .self) (Parameter.slots params ++ Node.attrSlots attrs)
  | .application _ line base args copy unvar =>
    let e := applied line base copy (Node.arguments args)
    if unvar then .unvar e else e
  | .data _ _ type value => .literal type value

/-- The slots of attributes: each is computed when it is first read. -/
def Node.attrSlots : List Node → List (String × SlotExpr)
  | [] => []
  | n :: rest => (attrName (n.name.getD ""), .once n.expr) :: Node.attrSlots rest

/-- The keys and the expressions of arguments. -/
def Node.arguments : List Node → List (Key × Expr)
  | [] => []
  | n :: rest => (argumentKey n.name, n.expr) :: Node.arguments rest

end

/-! ## Global objects -/

/-- The slots of an object that nothing was evaluated for yet. -/
def declareAll (slots : Slots) : List (String × SlotExpr) → Slots
  | [] => slots
  | (name, .free) :: rest => declareAll (slots.declare name (.free none)) rest
  | (name, .vararg) :: rest => declareAll (slots.declare name (.vararg [])) rest
  | (name, .once e) :: rest => declareAll (slots.declare name (.once e none)) rest
  | (name, .composite e) :: rest => declareAll (slots.declare name (.composite e)) rest
  | (_, .bound _) :: rest => declareAll slots rest

/-- The prototype of a top-level abstraction. -/
def Node.prototype (form : String) (params : List Parameter) (attrs : List Node) : Table :=
  { form := form, slots := declareAll [] (Parameter.slots params ++ Node.attrSlots attrs) }

/-- Makes the named abstraction a global object. -/
def State.installNode (s : State) : Node → State
  | .abstraction (some name) _ params attrs =>
    let (r, s) := s.alloc (.table (Node.prototype name params attrs))
    s.define name r
  | _ => s

/-- Makes the objects of a program global, in order. -/
def State.install (s : State) (p : Program) : State :=
  p.objects.foldl State.installNode s

end PhiCalculus
