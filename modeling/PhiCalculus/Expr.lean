import PhiCalculus.Method

/-!
# Expressions

What the slots of objects compute.  An expression is evaluated for an object, its self, and gives
an object.  Programs and sessions are made of the same expressions.
-/

set_option autoImplicit false

namespace PhiCalculus

/-! ## Names -/

/-- The decorated object: attributes missing on an object are looked up here. -/
def phi : String := "φ"

/-- What dataization reads. -/
def delta : String := "Δ"

/-- The owner of an object. -/
def rho : String := "ρ"

/-- The home of an object: the one in whose scope it was built. -/
def sigma : String := "σ"

/-- The object itself. -/
def xi : String := "ξ"

/-- The names that no attribute may have. -/
def reserved : List String := [rho, sigma, xi]

/-! ## Expressions -/

/-- How an argument finds its slot. -/
inductive Key where
  | name (n : String)
  /-- Among the slots still open, in the order of declaration. -/
  | position (i : Nat)
  deriving Repr, DecidableEq

/-- A key as terms show it. -/
def Key.text : Key → String
  | name n => n
  | position i => "α" ++ toString i

/-- A computation that is not written in the language. -/
inductive Native where
  /-- The result of a method, read from its receiver and its arguments. -/
  | method (m : Method)
  /-- Runs a main part, the handler of raises aimed at it, and a final part. -/
  | attempt
  /-- Raises the argument, aimed at the home. -/
  | signal
  deriving Repr, DecidableEq

mutual

/-- An expression over the object that it is evaluated for. -/
inductive Expr where
  /-- The object itself. -/
  | self
  /-- The number of dataizations in progress. -/
  | depth
  /-- An object that is known beforehand. -/
  | object (r : Ref)
  | data (v : Value)
  /-- A literal by the name of its type and its text. -/
  | literal (type text : String)
  | array (items : List Expr)
  | global (name : String)
  /-- A name in scope: an own attribute, one of an enclosing object, or a global object. -/
  | name (n : String)
  /-- The object in an attribute. -/
  | get (e : Expr) (name : String)
  /-- The view of an attribute as owned by its object. -/
  | method (e : Expr) (name : String)
  /-- The view of an object with an argument bound. -/
  | bind (e : Expr) (key : Key) (value : Expr)
  /-- The view of a fresh copy. -/
  | copied (e : Expr)
  /-- The view of an array to be spread over a slot that takes any number of arguments. -/
  | unvar (e : Expr)
  | copy (e : Expr)
  /-- The object behind any views. -/
  | resolved (e : Expr)
  /-- The value of an object, as data. -/
  | force (e : Expr)
  | fail (message : String)
  | raise (target payload : Expr)
  /-- Counts an evaluation. -/
  | count (counter : String) (e : Expr)
  | counter (name : String)
  /-- A new object. -/
  | build (form : String) (home : Option Expr) (attrs : List (String × SlotExpr))
  | native (n : Native)

/-- How a slot of a new object starts. -/
inductive SlotExpr where
  | free
  | vararg
  /-- Written at once. -/
  | bound (e : Expr)
  | once (e : Expr)
  | composite (e : Expr)

end

/-! ## Objects that an expression knows -/

mutual

/-- The objects that an expression refers to. -/
def Expr.refs : Expr → List Ref
  | .object r => [r]
  | .data v => v.items
  | .array items => Expr.refsOf items
  | .get e _ => e.refs
  | .method e _ => e.refs
  | .bind e _ value => e.refs ++ value.refs
  | .copied e => e.refs
  | .unvar e => e.refs
  | .copy e => e.refs
  | .resolved e => e.refs
  | .force e => e.refs
  | .raise target payload => target.refs ++ payload.refs
  | .count _ e => e.refs
  | .build _ home attrs =>
    (match home with
      | some e => e.refs
      | none => []) ++ SlotExpr.refsOf attrs
  | _ => []

def Expr.refsOf : List Expr → List Ref
  | [] => []
  | e :: rest => e.refs ++ Expr.refsOf rest

def SlotExpr.refs : SlotExpr → List Ref
  | .free => []
  | .vararg => []
  | .bound e => e.refs
  | .once e => e.refs
  | .composite e => e.refs

def SlotExpr.refsOf : List (String × SlotExpr) → List Ref
  | [] => []
  | (_, slot) :: rest => slot.refs ++ SlotExpr.refsOf rest

end

end PhiCalculus
