import PhiCalculus.Eval.Action

/-!
# Places and requests

A place is a slot that was looked up on an object, ready to be read or written.  Besides declared
slots there are places that only show something: the home and the object itself, the elements and
the methods of values.

Evaluation is organised by requests.  Each is answered in one step that may make further requests,
so that the whole evaluator is one function from requests to answers, by recursion on the number of
steps that may nest.
-/

set_option autoImplicit false

namespace PhiCalculus

/-! ## Places -/

/-- A slot that was looked up. -/
inductive Place where
  /-- A declared slot. -/
  | slot (object : Ref) (name : String)
  /-- The owner of an object. -/
  | owner (object : Ref)
  /-- A read-only slot and what is in it. -/
  | fixed (object : Ref) (name : String) (content : Ref)
  deriving Repr, DecidableEq

namespace Place

/-- The object that the place is on. -/
def object : Place → Ref
  | slot r _ => r
  | owner r => r
  | fixed r _ _ => r

def name : Place → String
  | slot _ n => n
  | owner _ => rho
  | fixed _ n _ => n

/-- The objects that exist as long as the place is in use. -/
def refs : Place → List Ref
  | slot r _ => [r]
  | owner r => [r]
  | fixed r _ content => [r, content]

/-- What is at the place, as a slot. -/
def state (h : Heap) : Place → Slot
  | slot r n => (h.slot? r n).getD (.free none)
  | owner r => .free (h.cell r).owner?
  | fixed _ _ content => .free (some content)

end Place

/-! ## Requests -/

/-- What one step of evaluation may ask of another, with the type of the answer. -/
inductive Request : Type → Type where
  /-- The place of a name on an object, on what it decorates, or on the value it is. -/
  | find (r : Ref) (name : String) : Request Place
  /-- The object at a place. -/
  | read (p : Place) : Request Ref
  /-- The object behind any views. -/
  | resolve (r : Ref) : Request Ref
  /-- The value of an object. -/
  | dataize (r : Ref) : Request Value
  /-- The object that an expression gives for its self. -/
  | eval (e : Expr) (self : Ref) : Request Ref

/-- The objects that a request is about; they are in use while it is answered. -/
def Request.refs {α : Type} : Request α → List Ref
  | .find r _ => [r]
  | .read p => p.refs
  | .resolve r => [r]
  | .dataize r => [r]
  | .eval _ self => [self]

/-- A way to answer requests. -/
abbrev Answerer : Type 1 := {α : Type} → Request α → Action α

end PhiCalculus
