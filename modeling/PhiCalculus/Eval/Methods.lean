import PhiCalculus.Eval.Dataize

/-!
# Results of methods

The object of a method finds its receiver in its home and its arguments in its slots.  Both are
dataized and must have the type that the method asks for; nothing is converted.  Integers wrap
around at 64 bits, and only the argument that a choice selects is looked at.
-/

set_option autoImplicit false

namespace PhiCalculus

variable (ask : Answerer)

open PhiCalculus.Action

/-- The result of an integer operation other than negation. -/
def integerResult (op : Arithmetic) (a b : Int64) : Except Failure Value :=
  match op with
  | .plus => .ok (.int (a + b))
  | .minus => .ok (.int (a - b))
  | .times => .ok (.int (a * b))
  | .div => if b == 0 then .error (.divisionByZero a) else .ok (.int (a / b))
  | .lt => .ok (.bool (a < b))
  | .gt => .ok (.bool (b < a))
  | .neg => .ok (.int (-a))

/-- The result of an operation on real numbers. -/
def realResult (op : Arithmetic) (a b : Float) : Value :=
  match op with
  | .plus => .float (a + b)
  | .minus => .float (a - b)
  | .times => .float (a * b)
  | .div => .float (a / b)
  | .lt => .bool (a < b)
  | .gt => .bool (b < a)
  | .neg => .float (-a)

/-- The element with that index. -/
def elementAt (items : List Ref) (index : Int64) : Except Failure Ref :=
  let out : Except Failure Ref := .error (.outOfBounds index items.length)
  if index < 0 then out
  else
    match items[index.toInt.toNat]? with
    | some item => .ok item
    | none => out

/-- Makes each text an object, in order. -/
def stringObjects : List String → Action (List Ref)
  | [] => pure []
  | s :: rest => do
    let r ← data (.string s)
    let refs ← stringObjects rest
    pure (r :: refs)

/-- The number of things counted, as a value. -/
def countValue (n : Nat) : Value := .int (Int64.ofNat n)

/-- The result of a method for the object of the method. -/
def methodResult (m : Method) (r : Ref) : Action Ref := do
  match m with
  | .eq =>
    let a ← fetch ask r sigma
    let b ← hold a.items (fetch ask r "x")
    let same ← asks fun s => Value.same s.heap.vertex a b
    data (.bool same)
  | .int .neg =>
    let a ← fetchInt ask r sigma
    data (.int (-a))
  | .int op =>
    let a ← fetchInt ask r sigma
    let b ← fetchInt ask r "x"
    data (← conclude (integerResult op a b))
  | .float .neg =>
    let a ← fetchFloat ask r sigma
    data (.float (-a))
  | .float op =>
    let a ← fetchFloat ask r sigma
    let b ← fetchFloat ask r "x"
    data (realResult op a b)
  | .negation =>
    let a ← fetchBool ask r sigma
    data (.bool !a)
  | .conjunction =>
    let a ← fetchBool ask r sigma
    let b ← fetchBool ask r "x"
    data (.bool (a && b))
  | .disjunction =>
    let a ← fetchBool ask r sigma
    let b ← fetchBool ask r "x"
    data (.bool (a || b))
  | .choose =>
    let a ← fetchBool ask r sigma
    let branch ← ask (.find r (if a then "t" else "f"))
    ask (.read branch)
  | .stringLength =>
    let s ← fetchString ask r sigma
    data (countValue s.length)
  | .concat =>
    let a ← fetchString ask r sigma
    let b ← fetchString ask r "x"
    data (.string (a ++ b))
  | .bytesSize =>
    let bs ← fetchBytes ask r sigma
    data (countValue bs.length)
  | .arrayLength =>
    let items ← fetchArray ask r sigma
    data (countValue items.length)
  | .element =>
    let items ← fetchArray ask r sigma
    let index ← hold items (fetchInt ask r "i")
    conclude (elementAt items index)
  | .find =>
    let p ← fetchPattern ask r sigma
    let text ← fetchString ask r "txt"
    let found ← stringObjects (p.findIn text)
    data (.array found)

end PhiCalculus
