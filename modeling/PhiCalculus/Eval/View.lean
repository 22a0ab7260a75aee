import PhiCalculus.Eval.Object

/-!
# Views

A view computes the object that it stands for at its first use and keeps it.  The object is always
new or concrete: a copy with an argument written, a copy of an attribute, a plain copy, or the
object behind the views of a base.  The base itself is never written.
-/

set_option autoImplicit false

namespace PhiCalculus

variable (ask : Answerer)

open PhiCalculus.Action

/-- A copy of the base, with its owner, and with the argument written. -/
def bindTo (base : Ref) (key : Key) (value : Ref) : Action Ref := do
  let base ← settle ask base
  hold [base] do
    let copy ← copyOf ask base
    hold [copy] do
      match ← ownerOf ask base with
      | some owner => moveTo ask copy owner
      | none => pure ()
      let place ← placeOf ask copy key
      write ask place value
      pure copy

/-- The attribute of the base: a value as it is, any other object as a copy owned by the base. -/
def methodOf (base : Ref) (name : String) : Action Ref := do
  let base ← settle ask base
  hold [base] do
    let place ← ask (.find base name)
    let found ← ask (.read place)
    if (← cell found).isData then pure found
    else hold [found] do
      let method ← copyOf ask found
      moveTo ask method base
      pure method

/-- The object that a view derives. -/
def derivedBy : View → Action Ref
  | .bind base key value => bindTo ask base key value
  | .method base name => methodOf ask base name
  | .copy base => copyOf ask base
  | .unvar base => settle ask base

/-- Keeps the result of a view, unless deriving it has left one already; returns what is kept. -/
def keepResult (r : Ref) (derived : Ref) : Action Ref := do
  match (← cell r).kind with
  | .view _ (some kept) => pure kept
  | _ => do
    changeHeap (·.setResult r derived)
    pure derived

/-- The object behind any views. -/
def resolveView (r : Ref) : Action Ref := do
  match (← cell r).kind with
  | .view _ (some kept) => settle ask kept
  | .view v none => do
    let derived ← derivedBy ask v
    let kept ← keepResult r derived
    settle ask kept
  | _ => pure r

end PhiCalculus
