import PhiCalculus.Eval.Place

/-!
# Operations on objects

Copying, owning, finding and writing places.  Every operation looks through views first, so it acts
on the object that a view stands for.
-/

set_option autoImplicit false

namespace PhiCalculus

variable (ask : Answerer)

open PhiCalculus.Action

/-! ## Looking through views -/

/-- The object behind any views. -/
def settle (r : Ref) : Action Ref := do
  if (← cell r).isView then ask (.resolve r) else pure r

/-! ## Copies and owners -/

/-- A copy of an object that is no view: the same form, home and slots, computed slots starting
over, and no owner.  A value is its own copy. -/
def copyConcrete (r : Ref) : Action Ref := do
  match (← cell r).kind with
  | .table t => alloc (.table { t with owner := none, slots := t.slots.copy })
  | _ => pure r

/-- A copy of the object. -/
def copyOf (r : Ref) : Action Ref := do
  let o ← settle ask r
  hold [o] (copyConcrete o)

/-- Binds the owner of an object that is no view.  Values have none and accept any. -/
def ownConcrete (r owner : Ref) : Action Unit := do
  let c ← cell r
  match c.kind with
  | .table t =>
    match t.owner with
    | some _ => fail (.alreadyBound rho c.subject)
    | none => changeHeap (·.setOwner r owner)
  | _ => pure ()

/-- Binds the owner, once. -/
def moveTo (r owner : Ref) : Action Unit := do
  ownConcrete (← settle ask r) owner

/-- The owner, if there is one. -/
def ownerOf (r : Ref) : Action (Option Ref) := do
  let o ← settle ask r
  asks fun s => (s.heap.cell o).owner?

/-! ## Places -/

/-- A declared slot of the object itself. -/
def ownPlace? (r : Ref) (name : String) : Action (Option Place) := do
  let o ← settle ask r
  asks fun s => (s.heap.slot? o name).map fun _ => Place.slot o name

/-- The place of that position among the slots that an argument may still land in. -/
def placeAt (r : Ref) (position : Nat) : Action Place := do
  let o ← settle ask r
  let c ← cell o
  match c.slots.openNames[position]? with
  | some name => pure (.slot o name)
  | none => fail (.noSuchAttribute ("#" ++ toString position) c.subject)

/-- The place that a key leads to: by name a slot of the object itself, or an open slot. -/
def placeOf (r : Ref) : Key → Action Place
  | .position i => placeAt ask r i
  | .name n => do
    match ← ownPlace? ask r n with
    | some p => pure p
    | none => noSuchAttribute n r

/-- Whether an argument may still land at the place. -/
def isOpenAt (p : Place) : Action Bool := asks fun s => (p.state s.heap).isOpen

/-! ## Writing -/

/-- Fails because the place is written already or computes what is in it. -/
def refuse (p : Place) : Action Unit := do
  fail (.alreadyBound p.name (← subject p.object))

/-- Writes a slot that is still empty; any other slot refuses. -/
def fill (r : Ref) (name : String) (value : Ref) : Action Unit := do
  match ← asks fun s => s.heap.slot? r name with
  | some (.free none) => changeHeap (·.setSlot r name (.free (some value)))
  | _ => refuse (.slot r name)

/-- Adds items to a slot that takes any number of arguments. -/
def append (r : Ref) (name : String) (items : List Ref) : Action Unit :=
  changeHeap fun h =>
    match h.slot? r name with
    | some (.vararg old) => h.setSlot r name (.vararg (old ++ items))
    | _ => h

/-- The elements that an argument adds to a slot that takes any number of arguments: those of a
spread array, or the argument itself. -/
def spread (name : String) (value : Ref) : Action (List Ref) := do
  if (← cell value).isUnvar then
    match ← ask (.dataize value) with
    | .array items => pure items
    | other => fail (.typeMismatch name .array other.tag)
  else pure [value]

/-- Writes an argument at a place: once where it is kept, any number of times where arguments are
collected. -/
def write (p : Place) (value : Ref) : Action Unit := do
  match p with
  | .fixed _ _ _ => refuse p
  | .owner r => ownConcrete r value
  | .slot r name =>
    match ← asks fun s => s.heap.slot? r name with
    | some (.vararg _) => do
      let items ← spread ask name value
      append r name items
    | _ => fill r name value

end PhiCalculus
