import PhiCalculus.Proofs.Placement

/-!
# Runs among the objects of earlier runs

A run that follows others finds their objects in the heap.  They lie between the prototypes and the
objects of the run, so each object of the run is as many places further on as there are of them
(`Program.shift`).  That is a placement, so a run among the objects of earlier runs is alike to the
run without them (`Likeness.among`).
-/

set_option autoImplicit false

namespace PhiCalculus

/-! ## Places further on -/

/-- The number of objects that earlier runs have left when they are done in a state. -/
def Program.left (p : Program) (start : State) : Nat := start.heap.size - p.base.heap.size

/-- Where an object is if the objects of earlier runs lie between the prototypes and it. -/
def Program.shift (p : Program) (start : State) (r : Ref) : Ref :=
  if r.index < p.base.heap.size then r else ⟨r.index + p.left start⟩

namespace Program

variable {p : Program} {start : State} {r : Ref}

theorem shift_of_lt (early : r.index < p.base.heap.size) : p.shift start r = r := if_pos early

theorem shift_of_le (late : p.base.heap.size ≤ r.index) :
    p.shift start r = ⟨r.index + p.left start⟩ :=
  if_neg (Nat.not_lt_of_le late)

theorem shift_injective : Function.Injective (p.shift start) := by
  intro a b same
  have same := congrArg Ref.index same
  refine congrArg Ref.mk (?_ : a.index = b.index)
  rw [shift, shift] at same
  split at same <;> split at same
  · exact same
  · change a.index = b.index + _ at same
    omega
  · change a.index + _ = b.index at same
    omega
  · exact Nat.add_right_cancel same

end Program

/-! ## The placement -/

/-- The objects of earlier runs are between the prototypes and the objects of the run. -/
def State.Fits.placement {p : Program} {start : State} (before : start.Fits p) :
    Placement p p start where
  place := p.shift start
  injective := Program.shift_injective
  before := before
  checked := before.checked
  size := before.size
  early r early := by
    rw [Program.shift_of_lt early]
    exact Nat.lt_of_lt_of_le early before.size
  late r late := by
    have size := before.size
    rw [Program.shift_of_le late, Program.left]
    change r.index + (start.heap.size - p.base.heap.size) + p.base.heap.size = _
    omega
  prototypes r early := by
    rw [Program.shift_of_lt early, before.prototypes r early]
  global? name := by
    rw [State.global?, State.global?, before.globals]
    cases named : List.lookup name p.base.globals with
    | none => rfl
    | some r =>
        obtain ⟨first, rest, entries, -⟩ := List.lookup_eq_some_iff.mp named
        have early : r.index < p.base.heap.size := p.defined_base (name, r) (by rw [entries]; simp)
        rw [Option.map_some, Program.shift_of_lt early]

/-- **A run among the objects of earlier runs is alike to the run without them**, whatever is in use
of earlier runs. -/
def Likeness.among {p : Program} {start : State} (before : start.Fits p) (kept : List Ref)
    (kept_early : ∀ x ∈ kept, x.index < start.heap.size) : Likeness p :=
  before.placement.likeness kept kept_early

/-- Where a first run would begin, the run after others is alike to it. -/
theorem State.Fits.at_among {p : Program} {start : State} (fits : start.Fits p)
    (numbered : start.Numbered) {frame : Frame}
    (exist : ∀ r ∈ frame.held, r.index < start.heap.size) :
    (Likeness.among fits frame.held exist).At { frame with held := [] } frame p.base start :=
  fits.placement.at_start numbered exist

end PhiCalculus
