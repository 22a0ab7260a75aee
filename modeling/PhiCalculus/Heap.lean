import PhiCalculus.Expr
import PhiCalculus.Failure

/-!
# The heap

All objects live in one heap and refer to each other by their places in it.  An object is a table
of slots with a home and an owner, a value, or a view that derives an object from others.

A new object takes the next place, and nothing is ever removed, so an object can only refer to
itself or to objects at places that exist.  Of an object that exists only a few things change: the
content of an empty free slot, the cache of a slot that is computed once, the items of a slot that
takes any number of arguments, the owner, and the result of a view.
-/

set_option autoImplicit false

namespace PhiCalculus

/-! ## Slots -/

/-- A slot of an object. -/
inductive Slot where
  /-- Empty until written, then read-only. -/
  | free (content : Option Ref)
  /-- Computed at the first read and then kept. -/
  | once (origin : Expr) (cache : Option Ref)
  /-- Takes any number of arguments. -/
  | vararg (items : List Ref)
  /-- Computed at every read. -/
  | composite (origin : Expr)

namespace Slot

/-- Whether an argument may still land here. -/
def isOpen : Slot → Bool
  | free none => true
  | vararg _ => true
  | _ => false

/-- The slot of a copy: computed slots start over. -/
def copy : Slot → Slot
  | once origin _ => once origin none
  | s => s

/-- The objects that a slot holds. -/
def refs : Slot → List Ref
  | free content => content.toList
  | once origin cache => cache.toList ++ origin.refs
  | vararg items => items
  | composite origin => origin.refs

end Slot

/-- The slots of an object under their names, in the order of declaration. -/
abbrev Slots := List (String × Slot)

namespace Slots

/-- The slot of that name. -/
def find? (slots : Slots) (name : String) : Option Slot := List.lookup name slots

/-- Gives a slot a new state; other slots and the order of names stay. -/
def set (slots : Slots) (name : String) (s : Slot) : Slots :=
  match slots with
  | [] => []
  | (n, old) :: rest => if n == name then (n, s) :: rest else (n, old) :: Slots.set rest name s

/-- Adds a slot at the end, or replaces the one of that name in its place. -/
def declare (slots : Slots) (name : String) (s : Slot) : Slots :=
  match slots with
  | [] => [(name, s)]
  | (n, old) :: rest =>
    if n == name then (n, s) :: rest else (n, old) :: Slots.declare rest name s

/-- The names, in order. -/
def names (slots : Slots) : List String := slots.map (·.1)

def copy (slots : Slots) : Slots := slots.map fun s => (s.1, s.2.copy)

/-- The slots that an argument may still land in, by their names. -/
def openNames (slots : Slots) : List String := (slots.filter fun s => s.2.isOpen).map (·.1)

def refs (slots : Slots) : List Ref := slots.flatMap fun s => s.2.refs

end Slots

/-! ## Objects -/

/-- How a view derives an object. -/
inductive View where
  /-- A copy of the base with one slot written. -/
  | bind (base : Ref) (key : Key) (value : Ref)
  /-- The attribute of the base, copied and owned by the base. -/
  | method (base : Ref) (name : String)
  /-- A copy of the base without an owner. -/
  | copy (base : Ref)
  /-- The base, to be spread over a slot that takes any number of arguments. -/
  | unvar (base : Ref)
  deriving Repr, DecidableEq

namespace View

def name : View → String
  | bind _ _ _ => "with"
  | method _ _ => "method"
  | copy _ => "copy"
  | unvar _ => "unvar"

def refs : View → List Ref
  | bind base _ value => [base, value]
  | method base _ => [base]
  | copy base => [base]
  | unvar base => [base]

end View

/-- An object that is neither data nor a view. -/
structure Table where
  form : String
  home : Option Ref := none
  owner : Option Ref := none
  slots : Slots := []

/-- What an object is. -/
inductive Kind where
  | table (t : Table)
  | data (v : Value)
  | view (v : View) (result : Option Ref)

/-- An object at its place in the heap. -/
structure Cell where
  vertex : Vertex
  kind : Kind

instance : Inhabited Cell := ⟨⟨⟨0⟩, .table { form := "" }⟩⟩

namespace Cell

/-- The form of an object: its name in a program, the type of a value, the kind of a view. -/
def form (c : Cell) : String :=
  match c.kind with
  | .table t => t.form
  | .data v => v.tag.name
  | .view v _ => v.name

/-- The object as messages show it. -/
def subject (c : Cell) : Subject := .object c.vertex c.form

/-- The value, if the object is one. -/
def value? (c : Cell) : Option Value :=
  match c.kind with
  | .data v => some v
  | _ => none

def isData (c : Cell) : Bool := c.value?.isSome

def isView (c : Cell) : Bool :=
  match c.kind with
  | .view _ _ => true
  | _ => false

/-- Whether the object is an array to be spread. -/
def isUnvar (c : Cell) : Bool :=
  match c.kind with
  | .view (.unvar _) _ => true
  | _ => false

/-- The slots that the object itself declares. -/
def slots (c : Cell) : Slots :=
  match c.kind with
  | .table t => t.slots
  | _ => []

/-- The home, gone or not. -/
def home? (c : Cell) : Option Ref :=
  match c.kind with
  | .table t => t.home
  | _ => none

/-- The owner, if one is bound. -/
def owner? (c : Cell) : Option Ref :=
  match c.kind with
  | .table t => t.owner
  | _ => none

/-- The objects that this one keeps in existence, its home apart. -/
def refs (c : Cell) : List Ref :=
  match c.kind with
  | .table t => t.owner.toList ++ t.slots.refs
  | .data v => v.items
  | .view v result => v.refs ++ result.toList

end Cell

/-! ## The heap -/

/-- All objects. -/
structure Heap where
  cells : Array Cell := #[]
  deriving Inhabited

namespace Heap

/-- The number of objects. -/
def size (h : Heap) : Nat := h.cells.size

/-- The object at a place. -/
def cell (h : Heap) (r : Ref) : Cell := h.cells.getD r.index default

/-- Puts a new object at the next place. -/
def alloc (h : Heap) (c : Cell) : Ref × Heap := (⟨h.cells.size⟩, ⟨h.cells.push c⟩)

/-- Changes what is at a place. -/
def update (h : Heap) (r : Ref) (f : Kind → Kind) : Heap :=
  ⟨h.cells.modify r.index fun c => { c with kind := f c.kind }⟩

def vertex (h : Heap) (r : Ref) : Vertex := (h.cell r).vertex

def subject (h : Heap) (r : Ref) : Subject := (h.cell r).subject

/-- The slot of that name that the object itself declares. -/
def slot? (h : Heap) (r : Ref) (name : String) : Option Slot := (h.cell r).slots.find? name

/-- Gives a slot of an object a new state. -/
def setSlot (h : Heap) (r : Ref) (name : String) (s : Slot) : Heap :=
  h.update r fun
    | .table t => .table { t with slots := t.slots.set name s }
    | k => k

/-- Binds the owner of an object. -/
def setOwner (h : Heap) (r owner : Ref) : Heap :=
  h.update r fun
    | .table t => .table { t with owner := some owner }
    | k => k

/-- Keeps the result of a view. -/
def setResult (h : Heap) (r result : Ref) : Heap :=
  h.update r fun
    | .view v _ => .view v (some result)
    | k => k

/-- The objects that one keeps in existence.  It refers to its home weakly, unless that is a
value. -/
def holds (h : Heap) (r : Ref) : List Ref :=
  let c := h.cell r
  match c.home? with
  | some home => if (h.cell home).isData then home :: c.refs else c.refs
  | none => c.refs

end Heap

end PhiCalculus
