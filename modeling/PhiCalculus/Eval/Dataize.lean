import PhiCalculus.Eval.Object

/-!
# Dataization

Dataizing an object reads its `Δ`, which leads down to a value.  A failure on the way gets the term
of the object being dataized, unless it has one already or is a raise.  A success leaves a line in
the trace, indented by the number of dataizations around it.
-/

set_option autoImplicit false

namespace PhiCalculus

variable (ask : Answerer)

open PhiCalculus.Action

/-- Where to read the value of an object. -/
def findData (r : Ref) : Action Place := do
  match ← observe (ask (.find r delta)) with
  | .ok place => pure place
  | .error (.noSuchAttribute attr object) =>
    if attr == delta then fail (.notData object .missing)
    else fail (.noSuchAttribute attr object)
  | .error f => fail f

/-- Reads a value off an object. -/
def forceValue (r : Ref) : Action Value := do
  match (← cell r).value? with
  | some v => pure v
  | none => do
    let place ← findData ask r
    let found ← ask (.read place)
    match (← cell found).value? with
    | some v => pure v
    | none => do fail (.notData (← subject r) (.holds (← subject found)))

/-- A term without the line breaks and tabs that names may bring into it. -/
def oneLine (term : String) : String :=
  String.ofList (term.toList.filter fun c => c != '\n' && c != '\t')

/-- The line that a dataization leaves in the trace. -/
def traceLine (depth : Nat) (term value : String) : String :=
  String.ofList (List.replicate depth '·') ++ "𝔻( " ++ oneLine term ++ " ) ➜ " ++ value

/-- Leaves the line of a dataization in the trace. -/
def leaveLine (depth : Nat) (r : Ref) (v : Value) : Action Unit := do
  let term ← finite fun s => s.heap.term? r
  let value ← finite fun s => s.heap.valueTerm? v
  change fun s => { s with trace := traceLine depth term value :: s.trace }

/-- Adds the term of the object to a failure that has none. -/
def place (r : Ref) (f : Failure) : Action Value :=
  if f.isRaise || f.isPlaced then fail f
  else do
    let term ← finite fun s => s.heap.term? r
    fail (.during term f)

/-- The value of an object. -/
def dataizeObject (r : Ref) : Action Value := do
  let around ← frame
  match ← observe (deeper (forceValue ask r)) with
  | .ok v => do
    if around.tracing then leaveLine around.depth r v
    pure v
  | .error f => place r f

/-! ## Parameters -/

/-- The value of an attribute.  The place is in use until the value is there. -/
def fetch (r : Ref) (attr : String) : Action Value := do
  let p ← ask (.find r attr)
  hold p.refs do
    let o ← ask (.read p)
    ask (.dataize o)

/-- The value of an attribute, which must have the given type. -/
def fetchTyped (r : Ref) (attr : String) (tag : TypeTag) : Action Value := do
  let v ← fetch ask r attr
  if v.tag == tag then pure v else fail (.typeMismatch attr tag v.tag)

/-- The part of a value that only one type has. -/
def fetchAs {α : Type} (r : Ref) (attr : String) (tag : TypeTag) (part : Value → Option α) :
    Action α := do
  let v ← fetchTyped ask r attr tag
  match part v with
  | some a => pure a
  | none => fail (.typeMismatch attr tag v.tag)

def fetchInt (r : Ref) (attr : String) : Action Int64 :=
  fetchAs ask r attr .int fun
    | .int n => some n
    | _ => none

def fetchFloat (r : Ref) (attr : String) : Action Float :=
  fetchAs ask r attr .float fun
    | .float x => some x
    | _ => none

def fetchBool (r : Ref) (attr : String) : Action Bool :=
  fetchAs ask r attr .bool fun
    | .bool b => some b
    | _ => none

def fetchChar (r : Ref) (attr : String) : Action Char :=
  fetchAs ask r attr .char fun
    | .char c => some c
    | _ => none

def fetchString (r : Ref) (attr : String) : Action String :=
  fetchAs ask r attr .string fun
    | .string s => some s
    | _ => none

def fetchBytes (r : Ref) (attr : String) : Action (List UInt8) :=
  fetchAs ask r attr .bytes fun
    | .bytes bs => some bs
    | _ => none

def fetchPattern (r : Ref) (attr : String) : Action Pattern :=
  fetchAs ask r attr .regex fun
    | .regex p => some p
    | _ => none

def fetchArray (r : Ref) (attr : String) : Action (List Ref) :=
  fetchAs ask r attr .array fun
    | .array items => some items
    | _ => none

end PhiCalculus
