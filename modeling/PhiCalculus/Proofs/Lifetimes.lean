import Mathlib.Algebra.BigOperators.Group.Finset.Basic
import Mathlib.Data.Finset.Card
import Mathlib.Data.Finset.Range
import PhiCalculus.Heap.Lifetime
import PhiCalculus.Proofs.Growth

/-!
# Which objects are gone

An object is gone if it is not in use and every object that holds it is gone (`Heap.Gone`).  That is
what counting finds out (`Heap.survives_iff`).  While objects are withdrawn one after the other,
each count is the number of holds that are left: those by being in use and those by objects that are
not withdrawn yet (`Heap.Counted`).  An object waits to be withdrawn as soon as its count is zero,
and since no object is withdrawn twice, none waits in the end.
-/

set_option autoImplicit false

namespace PhiCalculus.Heap

/-! ## Objects that are gone -/

/-- Nothing keeps the object in existence: it is not in use, and whatever holds it is gone. -/
inductive Gone (h : Heap) (inUse : List Ref) : Ref → Prop where
  | mk {r : Ref} : r ∉ inUse → (∀ x, r ∈ h.holds x → Gone h inUse x) → Gone h inUse r

/-- What objects hold exists. -/
def Closed (h : Heap) : Prop := ∀ r x, x ∈ h.holds r → x.index < h.size

variable {h : Heap} {inUse waiting rest : List Ref} {gone : Finset Nat} {counts : Array Nat}
  {r : Ref}

/-- What holds something exists. -/
theorem exist_of_holds {x : Ref} (holds : x ∈ h.holds r) : r.index < h.size := by
  by_contra out
  rw [Heap.holds, h.cell_of_ge out] at holds
  cases holds

/-! ## Counting -/

theorem size_countHolds (counts : Array Nat) (held : List Ref) :
    (countHolds counts held).size = counts.size := by
  induction held generalizing counts with
  | nil => rfl
  | cons r rest ih => exact (ih _).trans Array.size_modify

theorem getD_countHolds (counts : Array Nat) (held : List Ref) {i : Nat} (bound : i < counts.size) :
    (countHolds counts held).getD i 0 = counts.getD i 0 + held.count ⟨i⟩ := by
  induction held generalizing counts with
  | nil => rfl
  | cons r rest ih =>
      have modified : (counts.modify r.index (· + 1)).getD i 0 =
          counts.getD i 0 + if r = ⟨i⟩ then 1 else 0 := by
        rw [Array.getD_eq_getD_getElem?, Array.getD_eq_getD_getElem?, Array.getElem?_modify]
        obtain ⟨index⟩ := r
        by_cases same : index = i
        · simp [same, bound]
        · simp [same]
      rw [List.count_cons]
      refine (ih _ (by rwa [Array.size_modify])).trans ?_
      rw [modified]
      by_cases same : r = ⟨i⟩
      · simp [same]
        omega
      · simp [same]

/-- The holds on an object that are left when some objects are withdrawn. -/
def holdsLeft (h : Heap) (inUse : List Ref) (gone : Finset Nat) (r : Ref) : Nat :=
  inUse.count r + ∑ i ∈ Finset.range h.size \ gone, (h.holds ⟨i⟩).count r

/-- Withdrawing an object takes back what it holds. -/
theorem holdsLeft_insert (exist : r.index < h.size) (still : r.index ∉ gone) (x : Ref) :
    h.holdsLeft inUse gone x =
      h.holdsLeft inUse (insert r.index gone) x + (h.holds r).count x := by
  have there : r.index ∈ Finset.range h.size \ gone :=
    Finset.mem_sdiff.mpr ⟨Finset.mem_range.mpr exist, still⟩
  have split := Finset.sum_erase_add _ (fun i => (h.holds ⟨i⟩).count x) there
  rw [holdsLeft, holdsLeft, ← split, Finset.sdiff_insert, Nat.add_assoc]

/-- Nothing is left if the object is not in use and what holds it is withdrawn. -/
theorem holdsLeft_eq_zero_iff :
    h.holdsLeft inUse gone r = 0 ↔ r ∉ inUse ∧ ∀ x, r ∈ h.holds x → x.index ∈ gone := by
  rw [holdsLeft, Nat.add_eq_zero_iff, List.count_eq_zero, Finset.sum_eq_zero_iff]
  refine and_congr_right fun _ => ?_
  constructor
  · intro none x holds
    by_contra still
    have there := Finset.mem_sdiff.mpr ⟨Finset.mem_range.mpr (exist_of_holds holds), still⟩
    exact List.count_eq_zero.mp (none x.index there) holds
  · intro all i there
    refine List.count_eq_zero.mpr fun holds => ?_
    exact (Finset.mem_sdiff.mp there).2 (all ⟨i⟩ holds)

/-- The counts when the objects before some index have been looked at. -/
theorem countHolds_upto (inUse : List Ref) (n : Nat) :
    let counts := (List.range n).foldl (fun counts i => countHolds counts (h.holds ⟨i⟩))
      (countHolds (Array.replicate h.size 0) inUse)
    counts.size = h.size ∧ ∀ i < h.size, counts.getD i 0 =
      inUse.count ⟨i⟩ + ∑ j ∈ Finset.range n, (h.holds ⟨j⟩).count ⟨i⟩ := by
  induction n with
  | zero =>
      refine ⟨(size_countHolds _ _).trans Array.size_replicate, fun i bound => ?_⟩
      have first := getD_countHolds (Array.replicate h.size 0) inUse (by rwa [Array.size_replicate])
      simpa [bound] using first
  | succ n ih =>
      obtain ⟨size, count⟩ := ih
      rw [List.range_succ, List.foldl_append]
      refine ⟨(size_countHolds _ _).trans size, fun i bound => ?_⟩
      refine (getD_countHolds _ _ (by rwa [size])).trans ?_
      rw [count i bound, Finset.sum_range_succ, Nat.add_assoc]

/-! ## Withdrawing -/

/-- While objects are withdrawn: the counts are the holds that are left, except that those on `rest`
have still to be taken back.  An object whose count is zero is withdrawn, and gone, or waits for
it. -/
structure Counted (h : Heap) (inUse : List Ref) (gone : Finset Nat) (waiting rest : List Ref)
    (counts : Array Nat) : Prop where
  size : counts.size = h.size
  count : ∀ i < h.size, counts.getD i 0 = h.holdsLeft inUse gone ⟨i⟩ + rest.count ⟨i⟩
  free : ∀ i < h.size, counts.getD i 0 = 0 ↔ i ∈ gone ∨ ⟨i⟩ ∈ waiting
  waits : ∀ r ∈ waiting, r.index < h.size ∧ r.index ∉ gone
  once : waiting.Nodup
  sound : ∀ i ∈ gone, i < h.size ∧ h.Gone inUse ⟨i⟩

/-- Taking back a hold keeps the counts right. -/
theorem Counted.release_one (c : h.Counted inUse gone waiting (r :: rest) counts)
    (exist : r.index < h.size) :
    let left := counts.getD r.index 0 - 1
    h.Counted inUse gone (if left == 0 then r :: waiting else waiting) rest
      (counts.set! r.index left) := by
  intro left
  have before : counts.getD r.index 0 = h.holdsLeft inUse gone r + (r :: rest).count r :=
    c.count r.index exist
  rw [List.count_cons_self] at before
  have held : counts.getD r.index 0 ≠ 0 := by omega
  have fresh : r.index ∉ gone ∧ r ∉ waiting :=
    not_or.mp fun there => held ((c.free _ exist).mpr there)
  have self : (counts.set! r.index left).getD r.index 0 = left := by
    simp [Array.getD_eq_getD_getElem?, c.size, exist]
  have other {i : Nat} (ne : i ≠ r.index) :
      (counts.set! r.index left).getD i 0 = counts.getD i 0 := by
    simp [Array.getD_eq_getD_getElem?, Ne.symm ne]
  refine ⟨by simp [c.size], fun i bound => ?_, fun i bound => ?_, ?_, ?_, c.sound⟩
  · by_cases same : i = r.index
    · subst same
      rw [self]
      show left = h.holdsLeft inUse gone r + rest.count r
      omega
    · rw [other same, c.count i bound, List.count_cons_of_ne]
      exact fun is => same (congrArg Ref.index is).symm
  · by_cases same : i = r.index
    · subst same
      rw [self]
      by_cases zero : left = 0
      · simp [zero]
      · simp [zero, fresh.1, show (⟨r.index⟩ : Ref) ∉ waiting from fresh.2]
    · rw [other same, c.free i bound]
      have ne : (⟨i⟩ : Ref) ≠ r := fun is => same (congrArg Ref.index is)
      split <;> simp [ne]
  · split
    · exact List.forall_mem_cons.mpr ⟨⟨exist, fresh.1⟩, c.waits⟩
    · exact c.waits
  · split
    · exact List.nodup_cons.mpr ⟨fresh.2, c.once⟩
    · exact c.once

theorem Counted.release (c : h.Counted inUse gone waiting rest counts)
    (exist : ∀ r ∈ rest, r.index < h.size) :
    h.Counted inUse gone (Heap.release counts waiting rest).2 []
      (Heap.release counts waiting rest).1 := by
  induction rest generalizing counts waiting with
  | nil => exact c
  | cons r rest ih =>
      obtain ⟨here, later⟩ := List.forall_mem_cons.mp exist
      exact ih (c.release_one here) later

/-- An object that waits is gone, and its holds have to be taken back. -/
theorem Counted.withdraw_one (c : h.Counted inUse gone (r :: waiting) [] counts) :
    h.Counted inUse (insert r.index gone) waiting (h.holds r) counts := by
  obtain ⟨⟨exist, still⟩, waits⟩ := List.forall_mem_cons.mp c.waits
  obtain ⟨once, once'⟩ := List.nodup_cons.mp c.once
  refine ⟨c.size, fun i bound => ?_, fun i bound => ?_, fun x there => ?_, once', fun i there => ?_⟩
  · rw [c.count i bound, holdsLeft_insert exist still]
    rfl
  · rw [c.free i bound, Finset.mem_insert, List.mem_cons, or_assoc, or_left_comm]
    refine or_congr ?_ Iff.rfl
    exact ⟨congrArg Ref.index, congrArg Ref.mk⟩
  · refine ⟨(waits x there).1, fun same => ?_⟩
    rcases Finset.mem_insert.mp same with same | withdrawn
    · have same : x = r := congrArg Ref.mk same
      exact once (same ▸ there)
    · exact (waits x there).2 withdrawn
  · rcases Finset.mem_insert.mp there with rfl | withdrawn
    · have zero := (c.free r.index exist).mpr (.inr List.mem_cons_self)
      rw [c.count r.index exist] at zero
      obtain ⟨unused, holders⟩ := holdsLeft_eq_zero_iff.mp (Nat.add_eq_zero_iff.mp zero).1
      exact ⟨exist, .mk unused fun x holds => (c.sound x.index (holders x holds)).2⟩
    · exact c.sound i withdrawn

/-- In the end nothing waits: no more objects are withdrawn than there are. -/
theorem Counted.withdraw (closed : h.Closed) {fuel : Nat}
    (c : h.Counted inUse gone waiting [] counts) (enough : h.size < fuel + gone.card) :
    ∃ gone', h.Counted inUse gone' [] [] (h.withdraw fuel counts waiting) := by
  induction fuel generalizing gone waiting counts with
  | zero =>
      have few : gone ⊆ Finset.range h.size := fun i there =>
        Finset.mem_range.mpr (c.sound i there).1
      have card := Finset.card_le_card few
      rw [Finset.card_range] at card
      omega
  | succ fuel ih =>
      cases waiting with
      | nil => exact ⟨gone, c⟩
      | cons r waiting =>
          have still := (c.waits r List.mem_cons_self).2
          refine ih (c.withdraw_one.release fun x holds => closed r x holds) ?_
          rw [Finset.card_insert_of_notMem still]
          omega

/-- What is gone has been withdrawn when nothing waits any more. -/
theorem Counted.mem_of_gone (c : h.Counted inUse gone [] [] counts) (isGone : h.Gone inUse r)
    (exist : r.index < h.size) : r.index ∈ gone := by
  induction isGone with
  | @mk r unused _ ih =>
      have none := holdsLeft_eq_zero_iff.mpr
        ⟨unused, fun x holds => ih x holds (exist_of_holds holds)⟩
      have zero : counts.getD r.index 0 = 0 := (c.count r.index exist).trans none
      exact ((c.free r.index exist).mp zero).resolve_right List.not_mem_nil

/-- **An object still exists if and only if it is not gone.** -/
theorem survives_iff (closed : h.Closed) :
    h.survives inUse r = true ↔ r.index < h.size ∧ ¬ h.Gone inUse r := by
  have start : h.Counted inUse ∅
      (((List.range h.size).filter fun i => (h.holdCounts inUse).getD i 0 == 0).map Ref.mk) []
      (h.holdCounts inUse) := by
    obtain ⟨size, count⟩ := h.countHolds_upto inUse h.size
    refine ⟨size, fun i bound => ?_, fun i bound => ?_, fun r waits => ?_, ?_, ?_⟩
    · refine (count i bound).trans ?_
      rw [holdsLeft, Finset.sdiff_empty]
      rfl
    · simp [bound]
    · obtain ⟨i, unheld, rfl⟩ := List.mem_map.mp waits
      exact ⟨List.mem_range.mp (List.mem_filter.mp unheld).1, Finset.notMem_empty _⟩
    · exact (List.nodup_range.filter _).map fun _ _ same => congrArg Ref.index same
    · simp
  have enough : h.size < (h.size + 1) + (∅ : Finset Nat).card := by simp
  obtain ⟨gone, c⟩ := start.withdraw closed enough
  rw [survives, decide_eq_true_iff, Nat.pos_iff_ne_zero]
  constructor
  · intro held
    have exist : r.index < h.size := by
      by_contra out
      refine held ?_
      rw [Array.getD_eq_getD_getElem?, Array.getElem?_eq_none (by rw [c.size]; omega)]
      rfl
    refine ⟨exist, fun isGone => held ?_⟩
    exact (c.free _ exist).mpr (.inl (c.mem_of_gone isGone exist))
  · rintro ⟨exist, here⟩ zero
    have withdrawn := ((c.free _ exist).mp zero).resolve_right List.not_mem_nil
    exact here (c.sound _ withdrawn).2

end PhiCalculus.Heap
