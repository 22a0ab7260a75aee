import PhiCalculus.Heap

/-!
# Lifetimes

An object goes out of existence when nothing holds it any more: it is not in use, and every object
that held it is gone.  Objects that hold each other in a circle therefore stay, whether anything
else holds them or not.

Nothing is removed from the heap; this module only tells which objects are gone.  It counts for
each object how often it is held, and then withdraws, one after the other, the objects that are
held by nothing, together with their holds on others.  What is left still exists.
-/

set_option autoImplicit false

namespace PhiCalculus.Heap

/-- Counts one more hold on each of the objects. -/
def countHolds (counts : Array Nat) (held : List Ref) : Array Nat :=
  held.foldl (fun counts r => counts.modify r.index (· + 1)) counts

/-- How often each object is held, by others or by being in use. -/
def holdCounts (h : Heap) (inUse : List Ref) : Array Nat :=
  (List.range h.size).foldl (fun counts i => countHolds counts (h.holds ⟨i⟩))
    (countHolds (Array.replicate h.size 0) inUse)

/-- Takes back one hold on each of the objects; returns those that are held by nothing then, before
the ones that were waiting already. -/
def release (counts : Array Nat) (waiting : List Ref) : List Ref → Array Nat × List Ref
  | [] => (counts, waiting)
  | r :: rest =>
    let left := counts.getD r.index 0 - 1
    let counts := counts.set! r.index left
    release counts (if left == 0 then r :: waiting else waiting) rest

/-- Withdraws the waiting objects and all that nothing holds after them. -/
def withdraw (h : Heap) : Nat → Array Nat → List Ref → Array Nat
  | 0, counts, _ => counts
  | _ + 1, counts, [] => counts
  | fuel + 1, counts, r :: waiting =>
    let (counts, waiting) := release counts waiting (h.holds r)
    withdraw h fuel counts waiting

/-- Whether an object still exists when the given objects are in use. -/
def survives (h : Heap) (inUse : List Ref) (r : Ref) : Bool :=
  let counts := h.holdCounts inUse
  let free := ((List.range h.size).filter fun i => counts.getD i 0 == 0).map Ref.mk
  0 < (h.withdraw (h.size + 1) counts free).getD r.index 0

end PhiCalculus.Heap
