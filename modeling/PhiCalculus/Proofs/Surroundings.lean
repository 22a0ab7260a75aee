import PhiCalculus.Proofs.Composition
import PhiCalculus.Proofs.Lifetimes

/-!
# What surrounds an evaluation

The objects in use are listed one by one, and an object may be listed several times.  Which objects
still exist does not depend on that: it only matters what is listed (`Heap.survives_congr`).  This
holds in every heap, also where objects refer to places at which there is nothing, so it is not read
off from which objects are gone (`Heap.survives_iff`), but from two countings side by side.  Both
withdraw the same objects in the same order, since the counts of an object differ only by how often
it is in use (`Heap.Tallied.zero_iff`).

Surroundings are alike if they have the same depth, are traced or not alike, and have the same
objects in use (`Frame.Alike`).  Homes are the same in alike surroundings, and so are the objects
around an object.
-/

set_option autoImplicit false

namespace PhiCalculus

namespace Heap

variable {h : Heap} {inUse inUse' waiting rest : List Ref} {gone : Finset Nat}
  {counts counts' : Array Nat} {r : Ref}

/-! ## Counting in any heap -/

/-- While objects are withdrawn in any heap: the counts are the holds that are left, except that
those on `rest` have still to be taken back, and an object that is withdrawn or waits for it has
none. -/
structure Tallied (h : Heap) (inUse : List Ref) (gone : Finset Nat) (waiting rest : List Ref)
    (counts : Array Nat) : Prop where
  size : counts.size = h.size
  count : ∀ i < h.size, counts.getD i 0 = h.holdsLeft inUse gone ⟨i⟩ + rest.count ⟨i⟩
  none : ∀ i < h.size, i ∈ gone ∨ ⟨i⟩ ∈ waiting → counts.getD i 0 = 0
  waits : ∀ r ∈ waiting, r.index ∉ gone
  once : ∀ i < h.size, waiting.count ⟨i⟩ ≤ 1
  exist : ∀ i ∈ gone, i < h.size

namespace Tallied

/-- Nothing is counted for what does not exist. -/
theorem getD_of_ge (c : h.Tallied inUse gone waiting rest counts) {i : Nat} (out : ¬ i < h.size) :
    counts.getD i 0 = 0 := by
  rw [Array.getD_eq_getD_getElem?, Array.getElem?_eq_none (by rw [c.size]; omega)]
  rfl

/-- A hold that has still to be taken back is counted. -/
theorem getD_head (c : h.Tallied inUse gone waiting (r :: rest) counts) (exist : r.index < h.size) :
    counts.getD r.index 0 = h.holdsLeft inUse gone r + rest.count r + 1 := by
  rw [Nat.add_assoc, ← List.count_cons_self]
  exact c.count r.index exist

/-- Two counts of an object differ by how often it is in use, so both are zero or neither is. -/
theorem zero_iff (c : h.Tallied inUse gone waiting rest counts)
    (c' : h.Tallied inUse' gone waiting rest counts') (same : ∀ x, x ∈ inUse ↔ x ∈ inUse')
    (i : Nat) : counts.getD i 0 = 0 ↔ counts'.getD i 0 = 0 := by
  by_cases bound : i < h.size
  · rw [c.count i bound, c'.count i bound]
    simp only [Nat.add_eq_zero_iff, holdsLeft_eq_zero_iff, same]
  · rw [c.getD_of_ge bound, c'.getD_of_ge bound]

/-- So are two counts from which a hold is taken back. -/
theorem left_eq_zero (c : h.Tallied inUse gone waiting (r :: rest) counts)
    (c' : h.Tallied inUse' gone waiting (r :: rest) counts') (same : ∀ x, x ∈ inUse ↔ x ∈ inUse') :
    (counts.getD r.index 0 - 1 == 0) = (counts'.getD r.index 0 - 1 == 0) := by
  by_cases exist : r.index < h.size
  · rw [c.getD_head exist, c'.getD_head exist, Nat.add_sub_cancel, Nat.add_sub_cancel,
      Bool.eq_iff_iff, beq_iff_eq, beq_iff_eq]
    simp only [Nat.add_eq_zero_iff, holdsLeft_eq_zero_iff, same]
  · rw [c.getD_of_ge exist, c'.getD_of_ge exist]

/-- Taking back a hold keeps the counts right. -/
theorem release_one (c : h.Tallied inUse gone waiting (r :: rest) counts) :
    let left := counts.getD r.index 0 - 1
    h.Tallied inUse gone (if left == 0 then r :: waiting else waiting) rest
      (counts.set! r.index left) := by
  intro left
  have self (exist : r.index < h.size) : (counts.set! r.index left).getD r.index 0 = left := by
    simp [Array.getD_eq_getD_getElem?, c.size, exist]
  have other {i : Nat} (ne : i ≠ r.index) :
      (counts.set! r.index left).getD i 0 = counts.getD i 0 := by
    simp [Array.getD_eq_getD_getElem?, Ne.symm ne]
  have apart {i : Nat} (ne : i ≠ r.index) : r ≠ ⟨i⟩ := fun is => ne (congrArg Ref.index is).symm
  -- what exists and has a hold to take back is not withdrawn and does not wait
  have fresh (exist : r.index < h.size) : r.index ∉ gone ∧ r ∉ waiting := by
    refine not_or.mp fun there => ?_
    have none := c.none r.index exist there
    rw [c.getD_head exist] at none
    cases none
  refine ⟨by simp [c.size], fun i bound => ?_, fun i bound there => ?_, ?_, fun i bound => ?_,
    c.exist⟩
  · by_cases same : i = r.index
    · subst same
      rw [self bound]
      exact congrArg (· - 1) (c.getD_head bound)
    · rw [other same, c.count i bound, List.count_cons_of_ne (apart same)]
  · by_cases same : i = r.index
    · subst same
      rw [self bound]
      by_contra some
      rw [if_neg (by simpa using some)] at there
      exact not_or.mpr (fresh bound) there
    · refine (other same).trans (c.none i bound (there.imp_right fun waits => ?_))
      split at waits
      · exact (List.mem_cons.mp waits).resolve_left (apart same).symm
      · exact waits
  · split
    · exact List.forall_mem_cons.mpr ⟨fun there => (fresh (c.exist _ there)).1 there, c.waits⟩
    · exact c.waits
  · split
    · by_cases same : i = r.index
      · subst same
        have none : waiting.count r = 0 := List.count_eq_zero.mpr (fresh bound).2
        simp [none]
      · rw [List.count_cons_of_ne (apart same)]
        exact c.once i bound
    · exact c.once i bound

/-- Withdrawing an object, if there is one. -/
def withdrawing (h : Heap) (r : Ref) (gone : Finset Nat) : Finset Nat :=
  if r.index < h.size then insert r.index gone else gone

/-- An object that waits is withdrawn, and its holds have to be taken back. -/
theorem withdraw_one (c : h.Tallied inUse gone (r :: waiting) [] counts) :
    h.Tallied inUse (withdrawing h r gone) waiting (h.holds r) counts := by
  obtain ⟨still, waits⟩ := List.forall_mem_cons.mp c.waits
  have once (i : Nat) (bound : i < h.size) : waiting.count ⟨i⟩ ≤ 1 :=
    List.count_le_count_cons.trans (c.once i bound)
  by_cases exist : r.index < h.size
  · rw [withdrawing, if_pos exist]
    have alone : r ∉ waiting := by
      have most : (r :: waiting).count r ≤ 1 := c.once r.index exist
      rw [List.count_cons_self] at most
      exact List.count_eq_zero.mp (by omega)
    refine ⟨c.size, fun i bound => ?_, fun i bound there => ?_, fun x there => ?_, once,
      fun i there => ?_⟩
    · rw [c.count i bound, holdsLeft_insert exist still]
      rfl
    · refine c.none i bound ?_
      rw [Finset.mem_insert, or_assoc] at there
      rcases there with rfl | withdrawn | waits
      · exact .inr List.mem_cons_self
      · exact .inl withdrawn
      · exact .inr (List.mem_cons_of_mem _ waits)
    · rw [Finset.mem_insert]
      rintro (same | withdrawn)
      · obtain rfl : x = r := congrArg Ref.mk same
        exact alone there
      · exact waits x there withdrawn
    · rcases Finset.mem_insert.mp there with rfl | withdrawn
      · exact exist
      · exact c.exist i withdrawn
  · rw [withdrawing, if_neg exist]
    have nothing : h.holds r = [] := by
      rw [Heap.holds, h.cell_of_ge exist]
      rfl
    rw [nothing]
    exact ⟨c.size, c.count, fun i bound there =>
      c.none i bound (there.imp_right (List.mem_cons_of_mem _)), waits, once, c.exist⟩

end Tallied

theorem getD_holdCounts {i : Nat} (bound : i < h.size) :
    (h.holdCounts inUse).getD i 0 = h.holdsLeft inUse ∅ ⟨i⟩ := by
  refine ((h.countHolds_upto inUse h.size).2 i bound).trans ?_
  rw [holdsLeft, Finset.sdiff_empty]

/-- The objects that nothing holds. -/
def unheld (h : Heap) (inUse : List Ref) : List Ref :=
  ((List.range h.size).filter fun i => (h.holdCounts inUse).getD i 0 == 0).map Ref.mk

theorem tallied_holdCounts (h : Heap) (inUse : List Ref) :
    h.Tallied inUse ∅ (h.unheld inUse) [] (h.holdCounts inUse) := by
  have alone : (h.unheld inUse).Nodup :=
    (List.nodup_range.filter _).map fun _ _ same => congrArg Ref.index same
  refine ⟨(h.countHolds_upto inUse h.size).1, fun i bound => getD_holdCounts bound,
    fun i bound there => ?_, fun r _ => Finset.notMem_empty _,
    fun i _ => List.nodup_iff_count_le_one.mp alone ⟨i⟩, nofun⟩
  have waits := there.resolve_left (Finset.notMem_empty i)
  simp only [unheld, List.mem_map, List.mem_filter, Ref.mk.injEq, exists_eq_right,
    beq_iff_eq] at waits
  exact waits.2

/-! ## Two countings side by side -/

section

variable (same : ∀ x, x ∈ inUse ↔ x ∈ inUse')
include same

/-- Taking back holds leaves the same objects waiting. -/
theorem release_congr (c : h.Tallied inUse gone waiting rest counts)
    (c' : h.Tallied inUse' gone waiting rest counts') :
    (release counts' waiting rest).2 = (release counts waiting rest).2 ∧
      h.Tallied inUse gone (release counts waiting rest).2 [] (release counts waiting rest).1 ∧
      h.Tallied inUse' gone (release counts waiting rest).2 []
        (release counts' waiting rest).1 := by
  induction rest generalizing counts counts' waiting with
  | nil => exact ⟨rfl, c, c'⟩
  | cons r rest ih =>
      have next' := c'.release_one
      simp only [← c.left_eq_zero c' same] at next'
      simp only [release, ← c.left_eq_zero c' same]
      exact ih c.release_one next'

/-- Withdrawing leaves holds on the same objects. -/
theorem withdraw_congr (fuel : Nat) (c : h.Tallied inUse gone waiting [] counts)
    (c' : h.Tallied inUse' gone waiting [] counts') (i : Nat) :
    (h.withdraw fuel counts waiting).getD i 0 = 0 ↔
      (h.withdraw fuel counts' waiting).getD i 0 = 0 := by
  induction fuel generalizing gone waiting counts counts' with
  | zero => exact c.zero_iff c' same i
  | succ fuel ih =>
      cases waiting with
      | nil => exact c.zero_iff c' same i
      | cons r waiting =>
          obtain ⟨waits, next, next'⟩ := release_congr same c.withdraw_one c'.withdraw_one
          simp only [withdraw]
          rw [waits]
          exact ih next next'

theorem unheld_congr : h.unheld inUse = h.unheld inUse' := by
  refine congrArg (List.map Ref.mk) (List.filter_congr fun i there => ?_)
  have bound : i < h.size := List.mem_range.mp there
  rw [getD_holdCounts bound, getD_holdCounts bound, Bool.eq_iff_iff, beq_iff_eq, beq_iff_eq]
  simp only [holdsLeft_eq_zero_iff, same]

/-- **Which objects still exist depends on which objects are in use,** not on how they are
listed. -/
theorem survives_congr (r : Ref) : h.survives inUse r = h.survives inUse' r := by
  have c := h.tallied_holdCounts inUse
  have c' := h.tallied_holdCounts inUse'
  rw [← h.unheld_congr same] at c'
  have zero := h.withdraw_congr same (h.size + 1) c c' r.index
  rw [Bool.eq_iff_iff, survives, survives, decide_eq_true_iff, decide_eq_true_iff,
    Nat.pos_iff_ne_zero, Nat.pos_iff_ne_zero, not_iff_not]
  refine zero.trans ?_
  rw [h.unheld_congr same, unheld]

end

end Heap

/-! ## Homes -/

namespace State

variable {s : State} {held held' : List Ref}

section

variable (same : ∀ x, x ∈ held ↔ x ∈ held')
include same

theorem isAlive_congr (r : Ref) : s.isAlive held r = s.isAlive held' r := by
  have listed : held.contains r = held'.contains r := by
    rw [Bool.eq_iff_iff, List.contains_iff_mem, List.contains_iff_mem, same]
  have all (x : Ref) : x ∈ s.globals.map (·.2) ++ held ↔ x ∈ s.globals.map (·.2) ++ held' := by
    rw [List.mem_append, List.mem_append, same]
  rw [isAlive, isAlive, listed, Heap.survives_congr all]

theorem home?_congr (r : Ref) : s.home? held r = s.home? held' r := by
  rw [home?, home?]
  cases (s.heap.cell r).home? with
  | none => rfl
  | some home => simp only [isAlive_congr same]

end

theorem enclosing?_congr (same : ∀ x, x ∈ held ↔ x ∈ held') (name : String) (fuel : Nat)
    (r : Ref) : s.enclosing? held name fuel r = s.enclosing? held' name fuel r := by
  induction fuel generalizing r with
  | zero => rfl
  | succ fuel ih =>
      have more (x : Ref) : x ∈ r :: held ↔ x ∈ r :: held' := by
        rw [List.mem_cons, List.mem_cons, same]
      rw [enclosing?, enclosing?, home?_congr more]
      cases s.home? (r :: held') r with
      | none => rfl
      | some home => simp only [ih]

end State

/-! ## Alike surroundings -/

/-- Surroundings of the same depth, both traced or not, in which the same objects are in use. -/
structure Frame.Alike (frame frame' : Frame) : Prop where
  depth : frame.depth = frame'.depth
  tracing : frame.tracing = frame'.tracing
  held : ∀ x, x ∈ frame.held ↔ x ∈ frame'.held

namespace Frame.Alike

variable {frame frame' : Frame}

theorem symm (alike : frame.Alike frame') : frame'.Alike frame :=
  ⟨alike.depth.symm, alike.tracing.symm, fun x => (alike.held x).symm⟩

theorem holding (alike : frame.Alike frame') (refs : List Ref) :
    (frame.holding refs).Alike (frame'.holding refs) where
  depth := alike.depth
  tracing := alike.tracing
  held x := by
    show x ∈ refs ++ frame.held ↔ x ∈ refs ++ frame'.held
    rw [List.mem_append, List.mem_append, alike.held]

theorem deeper (alike : frame.Alike frame') :
    Frame.Alike { frame with depth := frame.depth + 1 }
      { frame' with depth := frame'.depth + 1 } where
  depth := congrArg (· + 1) alike.depth
  tracing := alike.tracing
  held := alike.held

end Frame.Alike

end PhiCalculus
