import PhiCalculus.Tree.Check

/-!
# Runs and sessions

A run checks a program, makes its objects global and dataizes the root.  A session does one thing
after another on the same runtime: it builds objects, keeps some of them under names of its own and
asks questions about them.  What it keeps stays in existence until it is dropped.
-/

set_option autoImplicit false

namespace PhiCalculus

open PhiCalculus.Action

/-! ## Runs -/

/-- The state with the objects of a program, if the program is well formed. -/
def Program.load (p : Program) : Except TreeFault State := do
  p.check
  .ok (State.initial.install p)

/-- Runs the root of a program: the object asked for, or the one that the program decides on. -/
def Program.run (p : Program) (root : Option String) (tracing : Bool) :
    Except TreeFault (Outcome Value) := do
  let s ← p.load
  let name ← p.root root
  .ok (dataizeGlobal name { tracing := tracing } s)

/-! ## Shown values -/

/-- A value as it is shown: its type, its term and its text for a reader. -/
structure Shown where
  type : TypeTag
  term : String
  display : String
  deriving Repr, DecidableEq

/-- A value as it is shown. -/
def shownValue (v : Value) : Action Shown := do
  let term ← finite fun s => s.heap.valueTerm? v
  pure ⟨v.tag, term, v.display term⟩

/-! ## Steps -/

/-- One step of a session.  Objects are given by expressions, which have no self. -/
inductive Step where
  /-- Builds an object and keeps it under a name, if one is given. -/
  | keep (e : Expr) (handle : Option String)
  | drop (handle : String)
  | dataize (e : Expr)
  | data (e : Expr)
  | put (e : Expr) (key : Key) (value : Expr)
  | slot (e : Expr) (key : Key)
  | has (e : Expr) (name : String)
  | move (e target : Expr)
  | owner (e : Expr)
  | home (e : Expr)
  | same (a b : Expr)
  | describe (e : Expr)
  /-- Fetches the value of an attribute, of a given type or of any. -/
  | param (e : Expr) (name : String) (type : Option TypeTag)
  | define (e : Expr) (name : String)
  | globals
  | run (name : String)
  | counter (name : String)
  | depth
  | size
  | next
  | best (v : Value)
  | bestOf (type label : String)

/-- What a step answers. -/
inductive Reply where
  | nothing
  | text (s : String)
  | flag (b : Bool)
  | number (n : Nat)
  | names (ns : List String)
  | value (v : Shown)
  | size (n : Nat)
  | slot (name owner : String) (isOpen : Bool) (text : String)
  | object (text form : String) (names : List String) (term : String) (unvar : Bool)
  deriving Repr, DecidableEq

/-- The object that an expression gives; there is no self to refer to. -/
def given (e : Expr) : Action Ref := evaluate (.eval e default)

/-- The place that a key leads to: by name any attribute, or an open slot. -/
def placeGiven (r : Ref) : Key → Action Place
  | .name n => evaluate (.find r n)
  | .position i => placeAt evaluate r i

/-- A place as it is described, with what is in it. -/
def placeText (p : Place) : Action String :=
  asks fun s =>
    (s.heap.subject p.object).text ++ "." ++ p.name ++ " = " ++ s.heap.slotText (p.state s.heap)

/-- An object, or nothing. -/
def maybeText : Option Ref → Action Reply
  | none => pure .nothing
  | some r => do pure (.text (← subject r).text)

/-- An object as it is described. -/
def describeObject (r : Ref) : Action Reply := do
  let c ← cell r
  let term ← finite fun s => s.heap.term? r
  pure (.object c.subject.text c.form c.slots.names term c.isUnvar)

/-- The names of the global objects. -/
def globalNames : Action Reply := asks fun s => .names (s.globals.map (·.1))

/-- A new vertex, or that of a value. -/
def newVertex (f : Registry → Vertex × Registry) : Action Reply := fun _ s =>
  let (v, registry) := f s.registry
  .answer (.text v.text) { s with registry := registry }

/-- What a step does on the runtime; what it keeps and drops is left to the session. -/
def Step.action : Step → Action Reply
  | .keep e _ => do pure (.text (← subject (← given e)).text)
  | .drop handle => pure (.text handle)
  | .dataize e => do
    let r ← given e
    let v ← evaluate (.dataize r)
    pure (.value (← shownValue v))
  | .data e => do
    match (← cell (← given e)).value? with
    | some v => pure (.value (← shownValue v))
    | none => pure .nothing
  | .put e key value => do
    let r ← given e
    hold [r] do
      let v ← given value
      hold [v] do
        let p ← placeGiven r key
        hold p.refs do
          write evaluate p v
          pure (.text (← placeText p))
  | .slot e key => do
    let r ← given e
    let p ← placeGiven r key
    let isOpen ← isOpenAt p
    pure (.slot p.name (← subject p.object).text isOpen (← placeText p))
  | .has e name => do
    let r ← given e
    let p ← ownPlace? evaluate r name
    pure (.flag p.isSome)
  | .move e target => do
    let r ← given e
    let o ← hold [r] (given target)
    moveTo evaluate r o
    pure .nothing
  | .owner e => do
    let r ← given e
    maybeText (← ownerOf evaluate r)
  | .home e => do
    let r ← given e
    let held := (← frame).held
    maybeText (← asks fun s => s.home? (r :: held) r)
  | .same a b => do
    let r ← given a
    let t ← hold [r] (given b)
    pure (.flag ((← vertex r) == (← vertex t)))
  | .describe e => do describeObject (← given e)
  | .param e name type => do
    let r ← given e
    let v ← match type with
      | some tag => fetchTyped evaluate r name tag
      | none => fetch evaluate r name
    pure (.value (← shownValue v))
  | .define e name => do
    let r ← given e
    change (·.define name r)
    globalNames
  | .globals => globalNames
  | .run name => do
    let v ← dataizeGlobal name
    pure (.value (← shownValue v))
  | .counter name => asks fun s => .number (s.counter name)
  | .depth => do pure (.number (← frame).depth)
  | .size => asks fun s => .size s.registry.size
  | .next => newVertex Registry.next
  | .best v => newVertex (·.best v)
  | .bestOf type label => fun _ s =>
    match s.registry.bestOf type label with
    | (.ok v, registry) => .answer (.text v.text) { s with registry := registry }
    | (.error f, registry) => .failure f { s with registry := registry }

/-! ## Sessions -/

/-- A runtime and the objects kept under names. -/
structure Session where
  state : State := State.initial
  handles : List (String × Ref) := []

namespace Session

/-- The object kept under that name. -/
def handle? (s : Session) (name : String) : Option Ref := List.lookup name s.handles

/-- The objects that the session keeps in existence. -/
def frame (s : Session) : Frame := { held := s.handles.map (·.2) }

/-- How a step ended. -/
inductive Ending where
  | reply (r : Reply)
  | failed (f : Failure)
  | unfinished

/-- Performs a step that does not keep what it builds. -/
def act (s : Session) (step : Step) : Ending × Session :=
  match step.action s.frame s.state with
  | .answer r state => (.reply r, { s with state := state })
  | .failure f state => (.failed f, { s with state := state })
  | .unfinished => (.unfinished, s)

/-- Builds an object and keeps it. -/
def keep (s : Session) (e : Expr) (handle : String) : Ending × Session :=
  match given e s.frame s.state with
  | .answer r state =>
    (.reply (.text (state.heap.subject r).text),
      { state := state, handles := State.insertEntry handle r s.handles })
  | .failure f state => (.failed f, { s with state := state })
  | .unfinished => (.unfinished, s)

/-- Performs a step. -/
def perform (s : Session) (step : Step) : Ending × Session :=
  match step with
  | .keep e (some handle) => s.keep e handle
  | .drop handle => (.reply (.text handle), { s with handles := s.handles.filter (·.1 != handle) })
  | _ => s.act step

end Session

end PhiCalculus
