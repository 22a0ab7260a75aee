import PhiCalculus.Proofs.Concrete

/-!
# Where arguments land

An argument with a name lands on the slot of that name, if the object itself declares it.  An
argument with a position lands on the slot with that position among the open ones: those that are
empty, and those that take any number of arguments.
-/

set_option autoImplicit false

namespace PhiCalculus

open PhiCalculus.Action

/-- The slot on which an argument lands. -/
def Slots.landing? (slots : Slots) : Key → Option String
  | .name n => (slots.find? n).map fun _ => n
  | .position i => slots.openNames[i]?

/-- What a message calls the slot that was looked for. -/
def Key.sought : Key → String
  | .name n => n
  | .position i => "#" ++ toString i

variable {ask : Answerer} {r : Ref} {s : State} {frame : Frame} {key : Key} {name : String}

theorem placeOf_landing (concrete : (s.heap.cell r).isView = false)
    (lands : (s.heap.cell r).slots.landing? key = some name) :
    placeOf ask r key frame s = .answer (.slot r name) s := by
  cases key with
  | position i => exact placeAt_open concrete lands
  | name n =>
      obtain ⟨slot, found, rfl⟩ := Option.map_eq_some_iff.mp lands
      have own : ownPlace? ask r n frame s = _ := ownPlace?_of_concrete concrete n
      rw [Heap.slot?, found] at own
      exact bind_of_answer own _

theorem placeOf_nowhere (concrete : (s.heap.cell r).isView = false)
    (nowhere : (s.heap.cell r).slots.landing? key = none) :
    placeOf ask r key frame s =
      .failure (.noSuchAttribute key.sought (s.heap.subject r)) s := by
  cases key with
  | position i => exact placeAt_none concrete nowhere
  | name n =>
      have own : ownPlace? ask r n frame s = _ := ownPlace?_of_concrete concrete n
      rw [Heap.slot?, Option.map_eq_none_iff.mp nowhere] at own
      exact bind_of_answer own _

end PhiCalculus
