import Mathlib.Data.Finset.Card
import Mathlib.Data.Finset.Prod
import Mathlib.Logic.Relation
import PhiCalculus.Proofs.Renaming

/-!
# When terms end

The term of an object at some depth is made of the terms of other objects at other depths: those in
its slots, the elements of an array, the parts of a view or its result (`Heap.parts`).  All of them
lie deeper, except that the elements of an array start from the top again.

There are only finitely many objects and depths.  So the term of an object ends, with the allowance
of steps that the heap gives, unless something that is shown on the way is shown within itself
(`Heap.isSome_term?_iff`).  Such a circle leads through an array (`Heap.Loops.array`), and where no
more than `k` arrays lie one within the other, fewer than `20 * (k + 1)` renderings are nested
(`Heap.Nests.isSome_termAt`).
-/

set_option autoImplicit false

namespace PhiCalculus

open Relation

/-! ## What a term is made of -/

/-- The objects that the term of a slot shows. -/
def Slot.shown : Slot → List Ref
  | free content => content.toList
  | once _ cache => cache.toList
  | vararg items => items
  | composite _ => []

theorem Slot.shown_rename (σ : Ref → Ref) (s : Slot) : (s.rename σ).shown = s.shown.map σ := by
  rcases s with (_ | _) | ⟨_, _ | _⟩ | _ | _ <;> rfl

/-- Slots in which nothing is do not refer to objects. -/
theorem Slots.rename_of_shown {σ : Ref → Ref} {slots : Slots}
    (empty : ∀ name s, (name, s) ∈ slots → s.shown = []) : Slots.rename σ slots = slots := by
  have same (s : Slot) (nothing : s.shown = []) : s.rename σ = s := by
    rcases s with (_ | _) | ⟨_, _ | _⟩ | items | _
    · rfl
    · cases nothing
    · rfl
    · cases nothing
    · cases nothing
      rfl
    · rfl
  rw [Slots.rename]
  conv_rhs => rw [← List.map_id slots]
  refine List.map_congr_left ?_
  rintro ⟨name, s⟩ there
  rw [same s (empty name s there)]
  rfl

theorem View.refs_rename (σ : Ref → Ref) (v : View) : (v.rename σ).refs = v.refs.map σ := by
  cases v <;> rfl

namespace Heap

variable (h : Heap)

/-- The depths and objects whose terms the term of an object at a depth is made of. -/
def parts (p : Nat × Ref) : List (Nat × Ref) :=
  if termDepth < p.1 then []
  else
    match (h.cell p.2).kind with
    | .data v => v.items.map fun r => (0, r)
    | .view _ (some result) => [(p.1, result)]
    | .view v none => v.refs.map fun r => (p.1 + 1, r)
    | .table t =>
      if termDepth < p.1 + 1 then []
      else t.slots.flatMap fun s => s.2.shown.map fun r => (p.1 + 2, r)

/-- The second object is shown, at its depth, in the term of the first one. -/
def Shows (p q : Nat × Ref) : Prop := q ∈ h.parts p

/-- An object at a depth is shown within itself. -/
def Loops (p : Nat × Ref) : Prop := TransGen h.Shows p p

/-- The term of the object leads to something that is shown within itself. -/
def Circular (r : Ref) : Prop := ∃ p, ReflTransGen h.Shows (0, r) p ∧ h.Loops p

/-- How the term of an object at a depth that is not abbreviated shows another one. -/
inductive Showing (depth : Nat) (r : Ref) : Nat × Ref → Prop where
  | item {v : Value} {item : Ref} : (h.cell r).kind = .data v → item ∈ v.items →
      Showing depth r (0, item)
  | result {v : View} {result : Ref} : (h.cell r).kind = .view v (some result) →
      Showing depth r (depth, result)
  | base {v : View} {base : Ref} : (h.cell r).kind = .view v none → base ∈ v.refs →
      Showing depth r (depth + 1, base)
  | slot {t : Table} {name : String} {s : Slot} {content : Ref} : (h.cell r).kind = .table t →
      depth < termDepth → (name, s) ∈ t.slots → content ∈ s.shown →
        Showing depth r (depth + 2, content)

variable {h} {fuel fuel' depth : Nat} {r : Ref}

theorem shows_iff {p q : Nat × Ref} :
    h.Shows p q ↔ p.1 ≤ termDepth ∧ h.Showing p.1 p.2 q := by
  unfold Shows parts
  split
  · next deep => exact iff_of_false List.not_mem_nil fun both => Nat.not_lt.mpr both.1 deep
  · next shallow =>
    rw [and_iff_right (Nat.le_of_not_lt shallow)]
    constructor
    · intro part
      cases kind : (h.cell p.2).kind with
      | data v =>
          simp only [kind, List.mem_map] at part
          obtain ⟨item, there, rfl⟩ := part
          exact .item kind there
      | view v result =>
          cases result with
          | some result =>
              simp only [kind, List.mem_singleton] at part
              subst part
              exact .result kind
          | none =>
              simp only [kind, List.mem_map] at part
              obtain ⟨base, there, rfl⟩ := part
              exact .base kind there
      | table t =>
          simp only [kind] at part
          split at part
          · cases part
          · next room =>
            obtain ⟨⟨name, slot⟩, declared, there⟩ := List.mem_flatMap.mp part
            obtain ⟨content, shown, rfl⟩ := List.mem_map.mp there
            exact .slot kind (Nat.lt_of_succ_le (Nat.le_of_not_lt room)) declared shown
    · intro showing
      cases showing with
      | item kind there =>
          simp only [kind]
          exact List.mem_map.mpr ⟨_, there, rfl⟩
      | result kind =>
          simp only [kind]
          exact List.mem_singleton.mpr rfl
      | base kind there =>
          simp only [kind]
          exact List.mem_map.mpr ⟨_, there, rfl⟩
      | slot kind room declared shown =>
          simp only [kind, if_neg (Nat.not_lt.mpr (Nat.succ_le_of_lt room))]
          exact List.mem_flatMap.mpr ⟨_, declared, List.mem_map.mpr ⟨_, shown, rfl⟩⟩

/-! ## One rendering -/

theorem isSome_termAt_mono (more : fuel ≤ fuel') (ends : (h.termAt fuel depth r).isSome = true) :
    (h.termAt fuel' depth r).isSome = true := by
  obtain ⟨text, ends⟩ := Option.isSome_iff_exists.mp ends
  rw [termAt_mono more ends]
  rfl

theorem isSome_slotTermAt_iff {s : Slot} :
    (h.slotTermAt (fuel + 1) depth s).isSome = true ↔
      (¬ termDepth < depth → ∀ r ∈ s.shown, (h.termAt fuel (depth + 1) r).isSome = true) := by
  rw [slotTermAt]
  split
  · next deep => simp [deep]
  · next shallow =>
    rcases s with (_ | content) | ⟨_, _ | kept⟩ | items | origin <;>
      simp [shallow, Slot.shown, isSome_mapM_iff]

/-- A term ends if the terms that it is made of do, with two steps fewer. -/
theorem isSome_termAt_of_parts
    (ends : ∀ q ∈ h.parts (depth, r), (h.termAt fuel q.1 q.2).isSome = true) :
    (h.termAt (fuel + 2) depth r).isSome = true := by
  have later {q : Nat × Ref} (part : q ∈ h.parts (depth, r)) :
      (h.termAt (fuel + 1) q.1 q.2).isSome = true :=
    isSome_termAt_mono (Nat.le_succ fuel) (ends q part)
  rw [termAt]
  split
  · rfl
  · next shallow =>
    simp only [parts, shallow, if_false] at ends later
    cases kind : (h.cell r).kind with
    | data v =>
        simp only [kind, List.mem_map, forall_exists_index, and_imp, Option.isSome_map,
          isSome_mapM_iff] at later ⊢
        exact fun item there => later item there rfl
    | view v result =>
        cases result with
        | some result =>
            simp only [kind, List.mem_singleton] at later
            exact later rfl
        | none =>
            simp only [kind, List.mem_map, forall_exists_index, and_imp] at later
            cases v with
            | bind base key value =>
                have first := later base (by simp [View.refs]) rfl
                have second := later value (by simp [View.refs]) rfl
                obtain ⟨b, first⟩ := Option.isSome_iff_exists.mp first
                obtain ⟨v, second⟩ := Option.isSome_iff_exists.mp second
                simp [first, second]
            | _ base =>
                have first := later base (by simp [View.refs]) rfl
                simpa using first
    | table t =>
        simp only [kind] at ends ⊢
        rw [Option.isSome_map, isSome_mapM_iff]
        intro slot declared
        rw [Option.isSome_map, isSome_slotTermAt_iff]
        intro room r shown
        refine ends (depth + 2, r) ?_
        rw [if_neg room]
        exact List.mem_flatMap.mpr ⟨slot, declared, List.mem_map.mpr ⟨r, shown, rfl⟩⟩

/-- If a term ends, so do the terms that it is made of, with one step fewer. -/
theorem isSome_termAt_part (ends : (h.termAt (fuel + 1) depth r).isSome = true)
    {q : Nat × Ref} (part : h.Shows (depth, r) q) : (h.termAt fuel q.1 q.2).isSome = true := by
  obtain ⟨shallow, showing⟩ := shows_iff.mp part
  rw [termAt, if_neg (Nat.not_lt.mpr shallow)] at ends
  cases showing with
  | item kind there =>
      simp only [kind, Option.isSome_map, isSome_mapM_iff] at ends
      exact ends _ there
  | result kind =>
      simp only [kind] at ends
      exact ends
  | @base v base kind there =>
      simp only [kind] at ends
      cases v with
      | bind inner key value =>
          obtain ⟨text, ends⟩ := Option.isSome_iff_exists.mp ends
          simp only [Option.bind_eq_bind, Option.bind_eq_some_iff] at ends
          obtain ⟨b, first, v, second, _⟩ := ends
          simp only [View.refs, List.mem_cons, List.not_mem_nil, or_false] at there
          rcases there with rfl | rfl
          · simp [first]
          · simp [second]
      | _ inner =>
          simp only [View.refs, List.mem_singleton] at there
          subst there
          simpa using ends
  | slot kind room declared shown =>
      simp only [kind, Option.isSome_map, isSome_mapM_iff] at ends
      have ends := ends _ declared
      cases fuel with
      | zero => simp [slotTermAt] at ends
      | succ fuel =>
          have inner := isSome_slotTermAt_iff.mp ends (Nat.not_lt.mpr room) _ shown
          exact isSome_termAt_mono (Nat.le_succ fuel) inner

/-! ## Circles -/

/-- Where a term ends, what it shows can only be followed finitely far. -/
theorem acc_of_isSome (ends : (h.termAt fuel depth r).isSome = true) :
    Acc (fun q p => h.Shows p q) (depth, r) := by
  induction fuel generalizing depth r with
  | zero => simp [termAt] at ends
  | succ fuel ih => exact ⟨_, fun q shown => ih (isSome_termAt_part ends shown)⟩

theorem not_loops_of_acc {p : Nat × Ref} (acc : Acc (fun q p => h.Shows p q) p) : ¬ h.Loops p := by
  have acc' : Acc (TransGen fun q p => h.Shows p q) p := acc.transGen
  induction acc' with
  | intro p _ ih =>
      intro loops
      have back : TransGen (fun q p => h.Shows p q) p p := transGen_swap.mp loops
      exact ih p back acc loops

theorem not_circular_of_isSome (ends : (h.termAt fuel 0 r).isSome = true) : ¬ h.Circular r := by
  have acc {p : Nat × Ref} (shown : ReflTransGen h.Shows (0, r) p) :
      Acc (fun q p => h.Shows p q) p := by
    induction shown with
    | refl => exact acc_of_isSome ends
    | tail _ shows ih => exact ih.inv shows
  rintro ⟨p, shown, loops⟩
  exact not_loops_of_acc (acc shown) loops

/-- Only objects that exist are made of others, at depths that are not abbreviated. -/
theorem mem_nodes_of_shows {p q : Nat × Ref} (shows : h.Shows p q) :
    (p.1, p.2.index) ∈ Finset.range (termDepth + 1) ×ˢ Finset.range h.size := by
  rw [Finset.mem_product, Finset.mem_range, Finset.mem_range]
  unfold Shows parts at shows
  split at shows
  · cases shows
  · next shallow =>
    refine ⟨by omega, ?_⟩
    by_contra out
    rw [h.cell_of_ge out] at shows
    simp [default] at shows

/-- The term of an object ends if the term leads to no circle.  The depths and objects on the way
to it are all different; `n` more can follow. -/
theorem isSome_termAt_of_not_circular {n : Nat} {p : Nat × Ref} {seen : Finset (Nat × Nat)}
    (straight : ∀ q, ReflTransGen h.Shows p q → ¬ h.Loops q)
    (way : ∀ q, (q.1, q.2.index) ∈ seen → TransGen h.Shows q p)
    (left : (Finset.range (termDepth + 1) ×ˢ Finset.range h.size \ seen).card ≤ n) :
    (h.termAt (2 * n + 2) p.1 p.2).isSome = true := by
  induction n generalizing p seen with
  | zero =>
      refine isSome_termAt_of_parts fun q part => ?_
      have node := mem_nodes_of_shows part
      have passed : (p.1, p.2.index) ∈ seen := by
        by_contra other
        have rest := Finset.card_pos.mpr ⟨_, Finset.mem_sdiff.mpr ⟨node, other⟩⟩
        omega
      exact absurd (way p passed) (straight p .refl)
  | succ n ih =>
      refine isSome_termAt_of_parts fun q part => ?_
      have shows : h.Shows p q := part
      have node := mem_nodes_of_shows shows
      have other : (p.1, p.2.index) ∉ seen := fun passed => straight p .refl (way p passed)
      refine @ih _ (insert (p.1, p.2.index) seen) ?_ ?_ ?_
      · exact fun o later => straight o (.head shows later)
      · intro o there
        rcases Finset.mem_insert.mp there with same | passed
        · obtain ⟨depth, index⟩ := o
          obtain ⟨rfl, place⟩ := Prod.mk.inj same
          have self : index = p.2 := by
            cases index
            cases h : p.2
            simp_all
          rw [self]
          exact .single shows
        · exact .tail (way o passed) shows
      · have fewer := Finset.card_erase_lt_of_mem (Finset.mem_sdiff.mpr ⟨node, other⟩)
        rw [← Finset.sdiff_insert] at fewer
        omega

/-- **A term is finite unless it leads to something that is shown within itself.** -/
theorem isSome_term?_iff : (h.term? r).isSome = true ↔ ¬ h.Circular r := by
  refine ⟨not_circular_of_isSome, fun straight => ?_⟩
  have ends := isSome_termAt_of_not_circular (h := h) (p := (0, r))
    (fun q shown loops => straight ⟨q, shown, loops⟩)
    (fun q (passed : _ ∈ (∅ : Finset (Nat × Nat))) => by simp at passed) le_rfl
  refine isSome_termAt_mono ?_ ends
  simp only [Finset.sdiff_empty, Finset.card_product, Finset.card_range, termDepth, termFuel]
  omega

section

variable {h' : Heap} {σ : Ref → Ref} (same : ∀ r, (h'.cell (σ r)).kind = (h.cell r).kind.rename σ)
include same

theorem Shows.rename {p q : Nat × Ref} (shows : h.Shows p q) :
    h'.Shows (p.1, σ p.2) (q.1, σ q.2) := by
  obtain ⟨shallow, showing⟩ := shows_iff.mp shows
  refine shows_iff.mpr ⟨shallow, ?_⟩
  have renamed {k : Kind} (kind : (h.cell p.2).kind = k) : (h'.cell (σ p.2)).kind = k.rename σ := by
    rw [same, kind]
  cases showing with
  | item kind there =>
      refine .item (renamed kind) ?_
      rw [Value.items_rename]
      exact List.mem_map_of_mem there
  | result kind => exact .result (renamed kind)
  | base kind there =>
      refine .base (renamed kind) ?_
      rw [View.refs_rename]
      exact List.mem_map_of_mem there
  | @slot t name s content kind room declared shown =>
      have declared' : (name, s.rename σ) ∈ t.slots.rename σ :=
        List.mem_map.mpr ⟨(name, s), declared, rfl⟩
      refine .slot (renamed kind) room declared' ?_
      rw [Slot.shown_rename]
      exact List.mem_map_of_mem shown

theorem Circular.rename (circular : h.Circular r) : h'.Circular (σ r) := by
  obtain ⟨p, shown, loops⟩ := circular
  let renamed (q : Nat × Ref) : Nat × Ref := (q.1, σ q.2)
  have shows (q q' : Nat × Ref) (part : h.Shows q q') : h'.Shows (renamed q) (renamed q') :=
    part.rename same
  exact ⟨renamed p, shown.lift renamed shows, TransGen.lift renamed shows _ _ loops⟩

/-- **In a heap that is no smaller, renamed objects have the same term, or have none.** -/
theorem term?_rename (more : h.size ≤ h'.size) (r : Ref) : h'.term? (σ r) = h.term? r := by
  have fuel : h.termFuel ≤ h'.termFuel := Nat.mul_le_mul_left 20 (Nat.succ_le_succ more)
  cases ends : h.term? r with
  | some text => exact (termAt_rename same fuel).1 ends
  | none =>
      have circular : h.Circular r := by
        by_contra straight
        have isSome := isSome_term?_iff.mpr straight
        rw [ends] at isSome
        cases isSome
      refine Option.not_isSome_iff_eq_none.mp fun isSome => ?_
      exact isSome_term?_iff.mp isSome (circular.rename same)

end

/-! ## Arrays -/

/-- Whether an object is an array. -/
def IsArray (h : Heap) (r : Ref) : Prop := ∃ items, (h.cell r).kind = .data (.array items)

/-- No view has a view as its result. -/
def Settled (h : Heap) : Prop :=
  ∀ r v result, (h.cell r).kind = .view v (some result) → (h.cell result).isView = false

/-- Rises by at least two from an object to what it shows, unless the object is an array. -/
def level (h : Heap) (p : Nat × Ref) : Nat := 2 * p.1 + if (h.cell p.2).isView then 0 else 2

theorem depth_of_shows {p q : Nat × Ref} (shows : h.Shows p q) :
    p.1 ≤ termDepth ∧ q.1 ≤ termDepth + 1 := by
  obtain ⟨shallow, showing⟩ := shows_iff.mp shows
  refine ⟨shallow, ?_⟩
  cases showing with
  | item => exact Nat.zero_le _
  | result => exact Nat.le_succ_of_le shallow
  | base => exact Nat.succ_le_succ shallow
  | slot _ room => exact Nat.succ_le_succ room

theorem level_of_shows (settled : h.Settled) {p q : Nat × Ref} (shows : h.Shows p q)
    (other : ¬ h.IsArray p.2) : h.level p + 2 ≤ h.level q := by
  cases (shows_iff.mp shows).2 with
  | @item v _ kind there =>
      cases v with
      | array items => exact absurd ⟨items, kind⟩ other
      | _ => cases there
  | @result v result kind =>
      have isView : (h.cell p.2).isView = true := by rw [Cell.isView, kind]
      simp [level, isView, settled p.2 v result kind]
  | base kind =>
      have isView : (h.cell p.2).isView = true := by rw [Cell.isView, kind]
      simp only [level, isView, if_true]
      omega
  | slot =>
      simp only [level]
      split <;> split <;> omega

/-- **What is shown within itself is shown within an array.** -/
theorem Loops.array (settled : h.Settled) {p : Nat × Ref} (loops : h.Loops p) :
    ∃ q, ReflTransGen h.Shows p q ∧ ReflTransGen h.Shows q p ∧ h.IsArray q.2 := by
  by_contra none
  have rises {q : Nat × Ref} (way : TransGen h.Shows p q) :
      ReflTransGen h.Shows q p → h.level p < h.level q := by
    induction way with
    | single shows =>
        intro back
        have further := level_of_shows settled shows fun isArray => none ⟨p, .refl, .refl, isArray⟩
        omega
    | tail way shows ih =>
        intro back
        have around := ReflTransGen.head shows back
        have further := level_of_shows settled shows fun isArray =>
          none ⟨_, way.to_reflTransGen, around, isArray⟩
        have before := ih around
        omega
  exact lt_irrefl _ (rises loops .refl)

/-- No more than `k` arrays lie one within the other in the term of an object at a depth. -/
inductive Nests (h : Heap) : Nat → Nat × Ref → Prop where
  | array {k : Nat} {p : Nat × Ref} : h.IsArray p.2 → (∀ q, h.Shows p q → Nests h k q) →
      Nests h (k + 1) p
  | other {k : Nat} {p : Nat × Ref} : ¬ h.IsArray p.2 → (∀ q, h.Shows p q → Nests h k q) →
      Nests h k p

/-- Eighteen steps lead from the top to an array and into it; fewer are left deeper down. -/
theorem Nests.isSome_of_level (settled : h.Settled) {k : Nat} {p : Nat × Ref}
    (nests : h.Nests k p) (shallow : p.1 ≤ termDepth + 1)
    (enough : 18 * (k + 1) ≤ fuel + h.level p) : (h.termAt fuel p.1 p.2).isSome = true := by
  have low : h.level p ≤ 2 * p.1 + 2 := by
    simp only [level]
    split <;> omega
  have seven : termDepth + 1 = 7 := rfl
  induction nests generalizing fuel with
  | @array k p isArray _ ih =>
      obtain ⟨less, rfl⟩ : ∃ less, fuel = less + 2 := ⟨fuel - 2, by omega⟩
      refine isSome_termAt_of_parts fun q (part : h.Shows p q) => ?_
      have depths := depth_of_shows part
      refine ih q part depths.2 (by omega) ?_
      simp only [level]
      split <;> omega
  | @other k p other _ ih =>
      obtain ⟨less, rfl⟩ : ∃ less, fuel = less + 2 := ⟨fuel - 2, by omega⟩
      refine isSome_termAt_of_parts fun q (part : h.Shows p q) => ?_
      have depths := depth_of_shows part
      have rises := level_of_shows settled part other
      refine ih q part depths.2 (by omega) ?_
      simp only [level]
      split <;> omega

/-- **Where no more than `k` arrays lie one within the other, fewer than `20 * (k + 1)` renderings
are nested.** -/
theorem Nests.isSome_termAt (settled : h.Settled) {k : Nat} (nests : h.Nests k (0, r)) :
    (h.termAt (20 * (k + 1)) 0 r).isSome = true :=
  nests.isSome_of_level settled (Nat.zero_le _) (by omega)

end Heap

end PhiCalculus
