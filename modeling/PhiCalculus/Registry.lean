import PhiCalculus.Failure

/-!
# The registry of vertices

Vertices are handed out densely, as the numbers 1, 2, 3 and so on, and each for a key.  An object
draws a ticket, which is a key of its own.  A value with a label has its type and label in one text
for a key, so equal values always get one vertex.  Both kinds of keys are kept in one list, and the
next vertex is one more than its length.

Tickets and vertices are counted in natural numbers, in place of numbers of 32 bits.  So it is
assumed that fewer than 2^32 vertices are handed out.  There are never more tickets than vertices,
so neither of the counts would come round to 0 then.
-/

set_option autoImplicit false

namespace PhiCalculus

/-- What a vertex is handed out for.  A text stands for its digest, which no other text has. -/
inductive VertexKey where
  | ticket (n : Nat)
  | content (text : String)
  deriving Repr, DecidableEq

/-- The key of a value of that type with that label. -/
def VertexKey.labelled (tag : TypeTag) (label : String) : VertexKey :=
  .content (tag.name ++ " " ++ label)

/-- The number of tickets drawn so far, and the vertices handed out, the latest first. -/
structure Registry where
  count : Nat := 0
  seen : List (VertexKey × Vertex) := []
  deriving Repr, DecidableEq, Inhabited

namespace Registry

/-- How many vertices were handed out. -/
def size (r : Registry) : Nat := r.seen.length

/-- The vertex of a key, if one was handed out. -/
def find? (r : Registry) (key : VertexKey) : Option Vertex := List.lookup key r.seen

/-- The vertex of a key, which is a new one if none was handed out before. -/
def register (r : Registry) (key : VertexKey) : Vertex × Registry :=
  match r.find? key with
  | some v => (v, r)
  | none =>
    let v : Vertex := ⟨r.size + 1⟩
    (v, { r with seen := (key, v) :: r.seen })

/-- The vertex of the next ticket. -/
def next (r : Registry) : Vertex × Registry :=
  let ticket := r.count + 1
  { r with count := ticket }.register (.ticket ticket)

/-- The vertex of the value with that type and label. -/
def content (r : Registry) (tag : TypeTag) (label : String) : Vertex × Registry :=
  r.register (.labelled tag label)

/-- The vertex of a value: shared by equal values, new for an array. -/
def best (r : Registry) (v : Value) : Vertex × Registry :=
  match v.label with
  | some label => r.content v.tag label
  | none => r.next

/-- The vertex of the literal with that type name and label.  Arrays and unknown types have no
labels. -/
def bestOf (r : Registry) (tag label : String) : Except Failure Vertex × Registry :=
  match TypeTag.ofName? tag with
  | none => (.error (.unsupportedType tag), r)
  | some .array => (.error (.unsupportedType tag), r)
  | some t =>
    let (v, r) := r.content t label
    (.ok v, r)

end Registry

end PhiCalculus
