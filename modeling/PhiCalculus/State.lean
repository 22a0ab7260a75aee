import PhiCalculus.Heap.Lifetime
import PhiCalculus.Registry

/-!
# The state of a runtime

A runtime has its objects, their vertices and the global objects under their names.  Along with
them the state keeps what an observer sees of a run: how often counted expressions were evaluated,
and the lines of the trace.
-/

set_option autoImplicit false

namespace PhiCalculus

/-- Everything that an evaluation can change. -/
structure State where
  heap : Heap := {}
  registry : Registry := {}
  /-- The global objects, in the order of their definition. -/
  globals : List (String × Ref) := []
  counters : List (String × Nat) := []
  /-- The lines of the trace, the latest first. -/
  trace : List String := []
  deriving Inhabited

namespace State

/-! ## Global objects and counters -/

/-- The global object of that name. -/
def global? (s : State) (name : String) : Option Ref := List.lookup name s.globals

/-- Replaces the entry of that name in its place, or adds one at the end. -/
def insertEntry {α : Type} (name : String) (a : α) : List (String × α) → List (String × α)
  | [] => [(name, a)]
  | (n, old) :: rest =>
    if n == name then (n, a) :: rest else (n, old) :: insertEntry name a rest

/-- Makes an object global; one that had the name before gives way. -/
def define (s : State) (name : String) (r : Ref) : State :=
  { s with globals := insertEntry name r s.globals }

def counter (s : State) (name : String) : Nat := (List.lookup name s.counters).getD 0

def count (s : State) (name : String) : State :=
  { s with counters := insertEntry name (s.counter name + 1) s.counters }

/-! ## New objects -/

/-- A new object with a vertex of its own. -/
def alloc (s : State) (k : Kind) : Ref × State :=
  let (v, registry) := s.registry.next
  let (r, heap) := s.heap.alloc ⟨v, k⟩
  (r, { s with heap := heap, registry := registry })

/-- A value as an object; equal values other than arrays share their vertex. -/
def allocData (s : State) (v : Value) : Ref × State :=
  let (vertex, registry) := s.registry.best v
  let (r, heap) := s.heap.alloc ⟨vertex, .data v⟩
  (r, { s with heap := heap, registry := registry })

/-! ## Homes -/

/-- Whether an object still exists while the given objects are in use. -/
def isAlive (s : State) (held : List Ref) (r : Ref) : Bool :=
  held.contains r || s.globals.any (·.2 == r) ||
    s.heap.survives (s.globals.map (·.2) ++ held) r

/-- The home of an object, unless it is gone.  A value that is a home is held by the object. -/
def home? (s : State) (held : List Ref) (r : Ref) : Option Ref :=
  match (s.heap.cell r).home? with
  | none => none
  | some home =>
    if (s.heap.cell home).isData || s.isAlive held home then some home else none

/-- The nearest object around another that declares the name, going from home to home.  A home is
older than its object, so the number of an object bounds the number of homes around it. -/
def enclosing? (s : State) (held : List Ref) (name : String) : Nat → Ref → Option Ref
  | 0, _ => none
  | fuel + 1, r =>
    match s.home? (r :: held) r with
    | none => none
    | some home =>
      if (s.heap.slot? home name).isSome then some home else s.enclosing? held name fuel home

end State

end PhiCalculus
