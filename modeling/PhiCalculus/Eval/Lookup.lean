import PhiCalculus.Eval.Object
import PhiCalculus.Number.Digits

/-!
# Lookup

A name is looked up on the object itself, then on the object that it decorates, and so on down to a
value, which answers by its elements and methods.  The names of the owner, the home and the object
itself are always answered by the object asked.

In an expression a name stands for an attribute of its self, else for one of the nearest object
around it that declares the name, else for a copy of a global object.
-/

set_option autoImplicit false

namespace PhiCalculus

variable (ask : Answerer)

open PhiCalculus.Action

/-! ## Attributes of values -/

/-- The greatest index that a name can spell. -/
def indexLimit : Nat := 0xFFFFFFFFFFFFFFFF

/-- The index that a name spells. -/
def indexOf? (name : String) : Option Nat :=
  match Number.readUnsigned 10 indexLimit name.toList with
  | .ok n => some n
  | .error _ => none

/-- The elements of an array as slots that have been written, named by their indices. -/
def unpack (items : List Ref) : Slots :=
  items.mapIdx fun i item => (toString i, .free (some item))

theorem getElem?_unpack (items : List Ref) (i : Nat) :
    (unpack items)[i]? = items[i]?.map fun item => (toString i, .free (some item)) := by
  rw [unpack, List.getElem?_mapIdx]

/-- A new object for a method of a value: its home is the value, its open slots take the arguments,
and what it decorates computes the result. -/
def methodTable (receiver : Ref) (tag : TypeTag) (name : String) (m : Method) : Table :=
  { form := tag.name ++ "." ++ name
    home := some receiver
    slots := m.params.map (·, .free none) ++ [(phi, .composite (.native (.method m)))] }

/-- The place of a name on a value. -/
def findOnValue (r : Ref) (v : Value) (name : String) : Action Place := do
  if name == delta || name == xi then pure (.fixed r name r)
  else
    match v, indexOf? name with
    | .array items, some i =>
      match (unpack items)[i]? with
      | some (index, .free (some item)) => pure (.fixed r index item)
      | _ => noSuchAttribute name r
    | _, _ =>
      match Method.ofName? v.tag name with
      | some m => do
        let o ← alloc (.table (methodTable r v.tag name m))
        pure (.fixed r name o)
      | none => noSuchAttribute name r

/-! ## Attributes of objects -/

/-- The place of the home. -/
def findHome (r : Ref) : Action Place := do
  let held := (← frame).held
  match (← cell r).home? with
  | none => noSuchAttribute sigma r
  | some _ =>
    match ← asks fun s => s.home? held r with
    | some home => pure (.fixed r sigma home)
    | none => do fail (.homeGone (← subject r))

/-- The place of a name on an object or on what it decorates. -/
def findPlace (r : Ref) (name : String) : Action Place := do
  match (← cell r).kind with
  | .view _ _ => do
    let o ← ask (.resolve r)
    ask (.find o name)
  | .data v => findOnValue r v name
  | .table t =>
    if name == rho then pure (.owner r)
    else if name == xi then pure (.fixed r xi r)
    else if name == sigma then findHome r
    else if (t.slots.find? name).isSome then pure (.slot r name)
    else if (t.slots.find? phi).isSome then do
      let decorated ← ask (.read (.slot r phi))
      ask (.find decorated name)
    else noSuchAttribute name r

/-- Keeps a computed object in its slot, unless the computation itself has left one there; returns
what is kept. -/
def keep (r : Ref) (name : String) (computed : Ref) : Action Ref := do
  match ← asks fun s => s.heap.slot? r name with
  | some (.once _ (some kept)) => pure kept
  | some (.once origin none) => do
    changeHeap (·.setSlot r name (.once origin (some computed)))
    pure computed
  | _ => pure computed

/-- The object at a place. -/
def readPlace (p : Place) : Action Ref := do
  match p with
  | .fixed _ _ content => pure content
  | .owner r =>
    match (← cell r).owner? with
    | some owner => pure owner
    | none => do fail (.notYetBound rho (← subject r))
  | .slot r name =>
    match ← asks fun s => s.heap.slot? r name with
    | some (.free (some content)) => pure content
    | some (.once _ (some kept)) => pure kept
    | some (.once origin none) => do
      let computed ← ask (.eval origin r)
      keep r name computed
    | some (.composite origin) => ask (.eval origin r)
    | some (.vararg items) => data (.array items)
    | _ => do fail (.notYetBound name (← subject r))

/-! ## Names in scope -/

/-- The object that a name stands for in the scope of an object. -/
def lookUp (scope : Ref) (name : String) : Action Ref := do
  let held := (← frame).held
  if (← asks fun s => s.heap.slot? scope name).isSome then ask (.read (.slot scope name))
  else
    match ← asks fun s => s.enclosing? held name (scope.index + 1) scope with
    | some outer => view (.method outer name)
    | none =>
      match ← asks fun s => s.global? name with
      | some r => view (.copy r)
      | none => noSuchAttribute name scope

end PhiCalculus
