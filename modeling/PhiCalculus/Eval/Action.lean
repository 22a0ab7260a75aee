import PhiCalculus.Heap.Term
import PhiCalculus.State

/-!
# Actions

An evaluation step works on the state of the runtime.  It ends in an answer or a failure, or it is
cut short because it does not end within the steps it was allowed; in each case there is the state
in which that happened.  Where it runs decides a few things for it: how many dataizations are in
progress, whether they are traced, and which objects are in use and therefore still exist.
-/

set_option autoImplicit false

namespace PhiCalculus

/-! ## Outcomes -/

/-- How an evaluation ended. -/
inductive Outcome (α : Type) where
  | answer (a : α) (s : State)
  | failure (f : Failure) (s : State)
  /-- It was cut short in that state: it did not end within the steps it was allowed. -/
  | unfinished {s : State}

/-- The state in which an evaluation ended or was cut short. -/
def Outcome.state {α : Type} : Outcome α → State
  | answer _ s => s
  | failure _ s => s
  | @unfinished _ s => s

/-- What surrounds an evaluation. -/
structure Frame where
  /-- The number of dataizations in progress. -/
  depth : Nat := 0
  /-- Whether dataizations leave lines in the trace. -/
  tracing : Bool := false
  /-- The objects in use. -/
  held : List Ref := []

/-- An evaluation. -/
def Action (α : Type) : Type := Frame → State → Outcome α

namespace Action

variable {α β : Type}

@[inline] protected def pure (a : α) : Action α := fun _ s => .answer a s

@[inline] protected def bind (x : Action α) (f : α → Action β) : Action β := fun frame s =>
  match x frame s with
  | .answer a s => f a frame s
  | .failure e s => .failure e s
  | @Outcome.unfinished _ s => @Outcome.unfinished _ s

instance : Monad Action where
  pure := Action.pure
  bind := Action.bind

/-! ## Primitive actions -/

/-- Ends in a failure. -/
@[inline] def fail (f : Failure) : Action α := fun _ s => .failure f s

/-- Reads something off the state. -/
@[inline] def asks (f : State → α) : Action α := fun _ s => .answer (f s) s

/-- Changes the state. -/
@[inline] def change (f : State → State) : Action Unit := fun _ s => .answer () (f s)

/-- Changes the heap. -/
@[inline] def changeHeap (f : Heap → Heap) : Action Unit :=
  change fun s => { s with heap := f s.heap }

/-- What surrounds the action. -/
@[inline] def frame : Action Frame := fun frame s => .answer frame s

/-- Keeps objects in use during an action. -/
@[inline] def hold (refs : List Ref) (x : Action α) : Action α := fun frame s =>
  x { frame with held := refs ++ frame.held } s

/-- Runs an action one dataization deeper. -/
@[inline] def deeper (x : Action α) : Action α := fun frame s =>
  x { frame with depth := frame.depth + 1 } s

/-- Turns a failure of the action into an answer. -/
@[inline] def observe (x : Action α) : Action (Except Failure α) := fun frame s =>
  match x frame s with
  | .answer a s => .answer (.ok a) s
  | .failure f s => .answer (.error f) s
  | @Outcome.unfinished _ s => @Outcome.unfinished _ s

/-- Ends as an earlier observation says. -/
def conclude : Except Failure α → Action α
  | .ok a => pure a
  | .error f => fail f

/-- The answer if there is one; nothing else can follow otherwise. -/
@[inline] def finite (f : State → Option α) : Action α := fun _ s =>
  match f s with
  | some a => .answer a s
  | none => @Outcome.unfinished _ s

/-! ## Objects -/

/-- The object at a place. -/
@[inline] def cell (r : Ref) : Action Cell := asks fun s => s.heap.cell r

/-- The object as messages show it. -/
def subject (r : Ref) : Action Subject := asks fun s => s.heap.subject r

def vertex (r : Ref) : Action Vertex := asks fun s => s.heap.vertex r

/-- Makes a new object. -/
def alloc (k : Kind) : Action Ref := fun _ s =>
  let (r, s) := s.alloc k
  .answer r s

/-- Makes a view. -/
def view (v : View) : Action Ref := alloc (.view v none)

/-- Makes a value an object. -/
def data (v : Value) : Action Ref := fun _ s =>
  let (r, s) := s.allocData v
  .answer r s

/-- Makes a value an object with the vertex of the literal of that type name and label. -/
def labelled (type label : String) (v : Value) : Action Ref := fun _ s =>
  match s.registry.bestOf type label with
  | (.ok vertex, registry) =>
    let (r, heap) := s.heap.alloc ⟨vertex, .data v⟩
    .answer r { s with heap := heap, registry := registry }
  | (.error f, registry) => .failure f { s with registry := registry }

def noSuchAttribute (name : String) (r : Ref) : Action α := do
  fail (.noSuchAttribute name (← subject r))

end Action

end PhiCalculus
