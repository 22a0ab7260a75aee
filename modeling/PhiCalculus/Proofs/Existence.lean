import PhiCalculus.Proofs.CarefulLookup
import PhiCalculus.Proofs.Placement

/-!
# Existence

An object exists as long as it can be reached along strong references from one that is in use, or
from one that holds itself through others (`Heap.gone_iff_unreachable`).

What is gone at a moment is gone for good.  Nothing known later on is lost, nothing that is not lost
holds what is lost, and what is lost no longer changes (`Moment.After`).  Changes made with known
objects keep this, so it is a custody, one for each moment from which on it is looked at
(`Moment.custody`).
-/

set_option autoImplicit false

namespace PhiCalculus

open PhiCalculus.Action

/-! ## What keeps objects in existence -/

namespace Heap

variable {h : Heap} {inUse : List Ref} {r x : Ref}

/-- The one object refers to the other strongly. -/
def Holds (h : Heap) (r x : Ref) : Prop := x ∈ h.holds r

/-- The object can be reached along strong references from one that is in use, or from one that
holds itself through others. -/
def Kept (h : Heap) (inUse : List Ref) (r : Ref) : Prop :=
  ∃ a, (a ∈ inUse ∨ Relation.TransGen h.Holds a a) ∧ Relation.ReflTransGen h.Holds a r

/-- What is held by something that is kept is kept. -/
theorem Kept.held (kept : h.Kept inUse r) (holds : h.Holds r x) : h.Kept inUse x :=
  let ⟨a, anchored, path⟩ := kept
  ⟨a, anchored, path.tail holds⟩

/-- What is kept is in use, or held by something that is kept. -/
theorem Kept.holder (kept : h.Kept inUse r) : r ∈ inUse ∨ ∃ x, h.Kept inUse x ∧ h.Holds x r := by
  obtain ⟨a, anchored, path⟩ := kept
  rcases Relation.ReflTransGen.cases_tail path with rfl | ⟨x, path, holds⟩
  · refine anchored.imp id fun circle => ?_
    obtain ⟨x, path, holds⟩ := Relation.TransGen.tail'_iff.mp circle
    exact ⟨x, ⟨r, .inr circle, path⟩, holds⟩
  · exact .inr ⟨x, ⟨a, anchored, path⟩, holds⟩

theorem Gone.not_kept (gone : h.Gone inUse r) : ¬ h.Kept inUse r := by
  induction gone with
  | mk unused _ ih =>
      intro kept
      rcases kept.holder with used | ⟨x, kept, holds⟩
      · exact unused used
      · exact ih x holds kept

open Classical in
/-- The objects from which the object can be reached. -/
noncomputable def holders (h : Heap) (r : Ref) : Finset Nat :=
  (Finset.range h.size).filter fun i => Relation.TransGen h.Holds ⟨i⟩ r

theorem mem_holders : x.index ∈ h.holders r ↔ Relation.TransGen h.Holds x r := by
  classical
  rw [holders, Finset.mem_filter, Finset.mem_range]
  refine ⟨fun there => there.2, fun path => ⟨?_, path⟩⟩
  obtain ⟨y, holds, -⟩ := Relation.TransGen.head'_iff.mp path
  exact exist_of_holds holds

/-- **An object is gone if and only if it cannot be reached** along strong references from what is
in use or from a circle of objects that hold each other. -/
theorem gone_iff_unreachable : h.Gone inUse r ↔ ¬ h.Kept inUse r := by
  refine ⟨Gone.not_kept, fun unreachable => ?_⟩
  -- on the number of objects from which it can be reached
  induction many : (h.holders r).card using Nat.strongRecOn generalizing r with
  | ind n ih =>
      refine .mk (fun used => unreachable ⟨r, .inl used, .refl⟩) fun x holds => ?_
      have unreachable' : ¬ h.Kept inUse x := fun kept => unreachable (kept.held holds)
      refine ih _ ?_ unreachable' rfl
      rw [← many]
      refine Finset.card_lt_card ((Finset.ssubset_iff_of_subset fun i there => ?_).mpr
        ⟨x.index, mem_holders.mpr (.single holds), fun circle => ?_⟩)
      · exact mem_holders.mpr ((mem_holders.mp there : Relation.TransGen h.Holds ⟨i⟩ x).tail holds)
      · exact unreachable' ⟨x, .inr (mem_holders.mp circle), .refl⟩

end Heap

/-! ## Moments -/

/-- A moment in a history: a state, and the objects in use then besides the global ones. -/
structure Moment where
  state : State
  inUse : List Ref

namespace Moment

/-- The objects that are global or in use. -/
def roots (m : Moment) : List Ref := m.state.globals.map (·.2) ++ m.inUse

/-- The object is gone. -/
def Gone (m : Moment) (r : Ref) : Prop := m.state.heap.Gone m.roots r

/-- The object was there, but is gone. -/
def Lost (m : Moment) (r : Ref) : Prop := r.index < m.state.heap.size ∧ m.Gone r

/-- Objects refer to objects that were made, and homes are older than what was built in them. -/
structure Intact (m : Moment) : Prop where
  closed : m.state.heap.Closed
  older : ∀ r home, (m.state.heap.cell r).home? = some home → home.index < r.index
  exist : ∀ r ∈ m.roots, r.index < m.state.heap.size

end Moment

/-- Since a heap, nothing of what was set aside in it has been used in any way: it has not changed,
nothing known is of it, and only what is set aside itself holds it. -/
structure Untouched (h : Heap) (aside : Ref → Prop) (known : List Ref) (s : State) : Prop
    extends Moment.Intact ⟨s, known⟩ where
  before : ∀ r, aside r → r.index < h.size
  grows : h.Grows s.heap
  spared : ∀ r ∈ Moment.roots ⟨s, known⟩, ¬ aside r
  still : ∀ r, aside r → s.heap.cell r = h.cell r
  apart : ∀ r x, x ∈ s.heap.holds r → aside x → aside r

namespace Moment

variable {m : Moment} {known known' : List Ref} {s t : State} {r x : Ref}

/-- Since a moment, nothing that was lost then has been used. -/
abbrev After (m : Moment) (known : List Ref) (s : State) : Prop :=
  Untouched m.state.heap m.Lost known s

/-- What is global or in use is not gone. -/
theorem not_gone (there : r ∈ m.roots) : ¬ m.Gone r := fun ⟨unused, _⟩ => unused there

/-- Nothing has happened since a moment at which more was in use. -/
theorem After.refl (intact : m.Intact) (sub : ∀ r ∈ known, r ∈ m.inUse) :
    m.After known m.state := by
  have roots (r : Ref) (there : r ∈ roots ⟨m.state, known⟩) : r ∈ m.roots := by
    rw [Moment.roots, List.mem_append] at there ⊢
    exact there.imp id (sub r)
  refine ⟨⟨intact.closed, intact.older, fun r there => intact.exist r (roots r there)⟩,
    fun _ => And.left, Heap.Grows.refl _, fun r there lost => not_gone (roots r there) lost.2, fun r _ => rfl, ?_⟩
  intro r x holds ⟨_, ⟨_, holders⟩⟩
  exact ⟨Heap.exist_of_holds holds, holders r holds⟩

/-- **What is lost stays lost.** -/
theorem After.gone (after : m.After known s) (lost : m.Lost r) : Gone ⟨s, known⟩ r := by
  obtain ⟨exist, gone⟩ := lost
  induction gone with
  | @mk r unused holders ih =>
      have lost : m.Lost r := ⟨exist, unused, holders⟩
      refine .mk (fun there => after.spared r there lost) fun x holds => ?_
      have lost' := after.apart x r holds lost
      refine ih x ?_ lost'.1
      -- what is lost holds what it held
      rcases Heap.refs_or_home holds with there | ⟨homed, isData⟩
      · rw [after.still x lost'] at there
        exact Heap.holds_of_refs there
      · rw [after.still x lost'] at homed
        rw [after.still r lost] at isData
        exact Heap.holds_of_home homed isData

/-- What still exists has not been lost. -/
theorem After.not_lost (after : m.After known s) (here : ¬ Gone ⟨s, known⟩ r) : ¬ m.Lost r :=
  fun lost => here (after.gone lost)

theorem mem_roots_iff : r ∈ roots ⟨s, known⟩ ↔ r ∈ s.globals.map (·.2) ∨ r ∈ known :=
  List.mem_append

theorem mem_roots_of_global {name : String} (found : s.global? name = some r) :
    r ∈ roots ⟨s, known⟩ := by
  obtain ⟨before, after, entries, -⟩ := List.lookup_eq_some_iff.mp found
  refine mem_roots_iff.mpr (.inl (List.mem_map.mpr ⟨(name, r), ?_, rfl⟩))
  rw [entries]
  exact List.mem_append_right _ List.mem_cons_self

/-- Whether something still exists is whether it is gone. -/
theorem Intact.isAlive_iff (intact : Intact ⟨s, known⟩) :
    s.isAlive known r = true ↔ r.index < s.heap.size ∧ ¬ Gone ⟨s, known⟩ r := by
  rw [State.isAlive_iff intact.closed]
  constructor
  · rintro (there | there | alive)
    · exact ⟨intact.exist r (mem_roots_iff.mpr (.inr there)), not_gone (mem_roots_iff.mpr (.inr there))⟩
    · exact ⟨intact.exist r (mem_roots_iff.mpr (.inl there)), not_gone (mem_roots_iff.mpr (.inl there))⟩
    · exact alive
  · exact fun alive => .inr (.inr alive)

/-- A home exists in the heap as long as its object does. -/
theorem Intact.exist_home (intact : Intact ⟨s, known⟩) {home : Ref}
    (homed : (s.heap.cell r).home? = some home) : home.index < s.heap.size := by
  refine Nat.lt_trans (intact.older r home homed) ?_
  by_contra out
  rw [s.heap.cell_of_ge out] at homed
  cases homed

/-- **The home of an object is given exactly if it is a value or still exists.** -/
theorem Intact.home?_iff (intact : Intact ⟨s, known⟩) {home : Ref}
    (homed : (s.heap.cell r).home? = some home) :
    (s.home? known r = some home ↔
      (s.heap.cell home).isData = true ∨ ¬ Gone ⟨s, known⟩ home) ∧
    (s.home? known r = none ↔ ¬ ((s.heap.cell home).isData = true ∨ ¬ Gone ⟨s, known⟩ home)) := by
  have alive : ((s.heap.cell home).isData || s.isAlive known home) = true ↔
      ((s.heap.cell home).isData = true ∨ ¬ Gone ⟨s, known⟩ home) := by
    rw [Bool.or_eq_true, intact.isAlive_iff]
    exact or_congr Iff.rfl ⟨And.right, fun here => ⟨intact.exist_home homed, here⟩⟩
  rw [State.home?, homed, ← alive]
  by_cases here : ((s.heap.cell home).isData || s.isAlive known home) = true <;> simp [here]

end Moment

/-! ## What has been set aside -/

namespace Untouched

open Moment

variable {start : Heap} {aside : Ref → Prop} {known known' : List Ref} {s t : State} {r x : Ref}

/-- What a step may add: holds on what is there and has not been set aside. -/
theorem next (after : Untouched start aside known s) (grown : s.heap.Grows t.heap)
    (globals : t.globals = s.globals)
    (older : ∀ r home, s.heap.size ≤ r.index → (t.heap.cell r).home? = some home →
      home.index < r.index)
    (knows : ∀ r ∈ known', r ∈ known ∨ s.heap.size ≤ r.index ∧ r.index < t.heap.size)
    (holds : ∀ r x, x ∈ t.heap.holds r →
      x ∈ s.heap.holds r ∨ x.index < t.heap.size ∧ ¬ aside x)
    (still : ∀ r, aside r → t.heap.cell r = s.heap.cell r) :
    Untouched start aside known' t := by
  have new {r : Ref} (late : s.heap.size ≤ r.index) : ¬ aside r := fun is =>
    absurd (Nat.lt_of_lt_of_le (after.before r is) after.grows.size) (Nat.not_lt_of_le late)
  have rooted (r : Ref) (there : r ∈ roots ⟨t, known'⟩) :
      r.index < t.heap.size ∧ ¬ aside r := by
    have old (there : r ∈ roots ⟨s, known⟩) : r.index < t.heap.size ∧ ¬ aside r :=
      ⟨Nat.lt_of_lt_of_le (after.exist r there) grown.size, after.spared r there⟩
    rw [mem_roots_iff, globals] at there
    rcases there with there | there
    · exact old (mem_roots_iff.mpr (.inl there))
    · rcases knows r there with there | ⟨late, exist⟩
      · exact old (mem_roots_iff.mpr (.inr there))
      · exact ⟨exist, new late⟩
  refine ⟨⟨?_, ?_, fun r there => (rooted r there).1⟩, after.before, after.grows.trans grown,
    fun r there => (rooted r there).2, fun r is => (still r is).trans (after.still r is), ?_⟩
  · intro r x held
    exact (holds r x held).elim (fun held => Nat.lt_of_lt_of_le (after.closed r x held) grown.size)
      And.left
  · intro r home homed
    by_cases old : r.index < s.heap.size
    · exact after.older r home ((grown.cell r old).home?.symm.trans homed)
    · exact older r home (Nat.le_of_not_lt old) homed
  · intro r x held is
    exact (holds r x held).elim (fun held => after.apart r x held is) fun new => absurd is new.2

/-- What is known may be used. -/
theorem of_known (after : Untouched start aside known s) (there : r ∈ known) :
    r.index < s.heap.size ∧ ¬ aside r :=
  have there := mem_roots_iff.mpr (.inr there)
  ⟨after.exist r there, after.spared r there⟩

theorem held (after : Untouched start aside known s) (there : r ∈ known)
    (holds : x ∈ s.heap.holds r) : x.index < s.heap.size ∧ ¬ aside x :=
  ⟨after.closed r x holds, fun is => (after.of_known there).2 (after.apart r x holds is)⟩

/-- Other objects may be known that are there and have not been set aside. -/
theorem knowing (after : Untouched start aside known s)
    (knows : ∀ r ∈ known', r ∈ roots ⟨s, known⟩ ∨ r.index < s.heap.size ∧ ¬ aside r) :
    Untouched start aside known' s := by
  have rooted (r : Ref) (there : r ∈ roots ⟨s, known'⟩) :
      r.index < s.heap.size ∧ ¬ aside r := by
    have old (there : r ∈ roots ⟨s, known⟩) : r.index < s.heap.size ∧ ¬ aside r :=
      ⟨after.exist r there, after.spared r there⟩
    rw [mem_roots_iff] at there
    rcases there with there | there
    · exact old (mem_roots_iff.mpr (.inl there))
    · exact (knows r there).elim old id
  exact ⟨⟨after.closed, after.older, fun r there => (rooted r there).1⟩, after.before, after.grows,
    fun r there => (rooted r there).2, after.still, after.apart⟩

/-- What only an observer sees may change. -/
theorem seen (after : Untouched start aside known s) (heap : t.heap = s.heap)
    (globals : t.globals = s.globals) : Untouched start aside known t := by
  obtain ⟨⟨closed, older, exist⟩, before, grows, spared, still, apart⟩ := after
  have roots : roots ⟨t, known⟩ = roots ⟨s, known⟩ := by rw [Moment.roots, Moment.roots, globals]
  refine ⟨⟨?_, ?_, ?_⟩, before, ?_, ?_, ?_, ?_⟩ <;> simp only [heap, roots] <;> assumption

/-- A known object changes, but refers to nothing new except for what is known. -/
theorem update (after : Untouched start aside known s) (there : r ∈ known) {f : Kind → Kind}
    (grown : s.heap.Grows (s.heap.update r f))
    (refs : ∀ x ∈ ((s.heap.update r f).cell r).refs, x ∈ s.heap.holds r ∨ x ∈ known) :
    Untouched start aside known { s with heap := s.heap.update r f } := by
  have size := s.heap.size_update r f
  refine after.next grown rfl (fun q home late homed => ?_) (fun q there => .inl there)
    (fun q x holds => ?_) fun q is => ?_
  · have out : ¬ q.index < (s.heap.update r f).size := by rwa [size, Nat.not_lt]
    rw [show ({ s with heap := s.heap.update r f } : State).heap.cell q = default from
      Heap.cell_of_ge _ out] at homed
    cases homed
  · have holds : x ∈ (s.heap.update r f).holds q := holds
    have exist : q.index < s.heap.size := size ▸ Heap.exist_of_holds holds
    rcases Heap.refs_or_home holds with referred | ⟨homed, isData⟩
    · by_cases same : q = r
      · subst same
        rcases refs x referred with referred | known
        · exact .inl referred
        · exact .inr ((after.of_known known).imp (fun exist => size.symm ▸ exist) id)
      · rw [s.heap.cell_update_of_ne same] at referred
        exact .inl (Heap.holds_of_refs referred)
    · have exist' : x.index < s.heap.size := size ▸ Heap.lt_size_of_isData isData
      refine .inl (Heap.holds_of_home ((grown.cell q exist).home?.symm.trans homed) ?_)
      rw [← (grown.cell x exist').isData, isData]
  · have other : q ≠ r := fun same => (after.of_known there).2 (same ▸ is)
    exact s.heap.cell_update_of_ne other f

/-- An object is added that refers to known ones. -/
theorem add (after : Untouched start aside known s) {c : Cell} (heap : t.heap = (s.heap.alloc c).2)
    (globals : t.globals = s.globals) (refs : ∀ x ∈ c.refs, x ∈ known)
    (home : ∀ home, c.home? = some home →
      home ∈ known ∨ ∃ r ∈ known, (s.heap.cell r).home? = some home) :
    Untouched start aside (⟨s.heap.size⟩ :: known) t := by
  have grown : s.heap.Grows t.heap := by
    rw [heap]
    exact s.heap.grows_alloc c
  have early (o : Ref) (homed : c.home? = some o) : o.index < s.heap.size := by
    rcases home o homed with there | ⟨r, there, homed⟩
    · exact (after.of_known there).1
    · exact after.toIntact.exist_home homed
  refine after.next grown globals (fun q o late homed => ?_) (fun q there => ?_)
    (fun q x holds => ?_) fun q is => ?_
  · rw [heap] at homed
    rcases Heap.home?_of_alloc homed with ⟨old, -⟩ | ⟨-, homed⟩
    · exact absurd old (Nat.not_lt_of_le late)
    · exact Nat.lt_of_lt_of_le (early o homed) late
  · rcases List.mem_cons.mp there with rfl | there
    · rw [heap]
      exact .inr ⟨Nat.le_refl _, s.heap.lt_size_alloc.mpr (.inr rfl)⟩
    · exact .inl there
  · have later {x : Ref} (here : x.index < s.heap.size ∧ ¬ aside x) :
        x.index < t.heap.size ∧ ¬ aside x :=
      here.imp (fun exist => Nat.lt_of_lt_of_le exist grown.size) id
    rw [heap] at holds
    rcases Heap.holds_of_alloc (fun _ => after.toIntact.exist_home) holds with
      held | ⟨-, referred | ⟨homed, isData⟩⟩
    · exact .inl held
    · exact .inr (later (after.of_known (refs x referred)))
    · refine .inr (later ?_)
      rcases home x homed with there | ⟨r, there, homed'⟩
      · exact after.of_known there
      · rw [s.heap.cell_alloc_of_lt c (early x homed)] at isData
        exact after.held there (Heap.holds_of_home homed' isData)
  · rw [heap]
    exact s.heap.cell_alloc_of_lt c (Nat.lt_of_lt_of_le (after.before q is) after.grows.size)

/-! ### What an object refers to after a change -/

variable {h : Heap}

/-- A changed object refers to what it referred to, and to what the change brings. -/
theorem refs_update {f : Kind → Kind} {more : List Ref}
    (refs : ∀ v k, x ∈ (Cell.refs ⟨v, f k⟩) → x ∈ (Cell.refs ⟨v, k⟩) ∨ x ∈ more)
    (there : x ∈ ((h.update r f).cell r).refs) : x ∈ h.holds r ∨ x ∈ more := by
  by_cases exist : r.index < h.size
  · rw [h.cell_update_self exist] at there
    exact (refs (h.cell r).vertex (h.cell r).kind there).imp Heap.holds_of_refs id
  · have out : ¬ r.index < (h.update r f).size := by rwa [Heap.size_update]
    rw [Heap.cell_of_ge _ out] at there
    cases there

theorem refs_set {slots : Slots} {name : String} {slot : Slot}
    (there : x ∈ (slots.set name slot).refs) : x ∈ slots.refs ∨ x ∈ slot.refs := by
  induction slots with
  | nil => cases there
  | cons first rest ih =>
      obtain ⟨n, old⟩ := first
      rw [Slots.refs, List.flatMap_cons, List.mem_append]
      rw [Slots.set] at there
      split at there <;> rw [Slots.refs, List.flatMap_cons, List.mem_append] at there
      · exact there.elim .inr fun there => .inl (.inr there)
      · rcases there with there | there
        · exact .inl (.inl there)
        · exact (ih there).imp .inr id

theorem refs_setSlot {name : String} {slot : Slot}
    (there : x ∈ ((h.setSlot r name slot).cell r).refs) : x ∈ h.holds r ∨ x ∈ slot.refs := by
  refine refs_update (fun v k there => ?_) there
  cases k with
  | table t =>
      rcases List.mem_append.mp there with owner | there
      · exact .inl (List.mem_append_left _ owner)
      · exact (refs_set there).imp (List.mem_append_right _) id
  | data v => exact .inl there
  | view v result => exact .inl there

theorem refs_setOwner {o : Ref} (there : x ∈ ((h.setOwner r o).cell r).refs) :
    x ∈ h.holds r ∨ x ∈ [o] := by
  refine refs_update (fun v k there => ?_) there
  cases k with
  | table t => exact (List.mem_append.mp there).symm.imp (List.mem_append_right _) id
  | data v => exact .inl there
  | view v result => exact .inl there

theorem refs_setResult {o : Ref} (there : x ∈ ((h.setResult r o).cell r).refs) :
    x ∈ h.holds r ∨ x ∈ [o] := by
  refine refs_update (fun v k there => ?_) there
  cases k with
  | table t => exact .inl there
  | data v => exact .inl there
  | view v result => exact (List.mem_append.mp there).imp (List.mem_append_left _) id

/-! ### Changes of slots, owners and results -/

theorem setSlot (after : Untouched start aside known s) (there : r ∈ known) {name : String}
    {old new : Slot} (found : s.heap.slot? r name = some old) (grown : old.Grows new)
    (refs : ∀ x ∈ new.refs, x ∈ old.refs ∨ x ∈ known) :
    Untouched start aside known { s with heap := s.heap.setSlot r name new } :=
  after.update there (s.heap.grows_setSlot found grown) fun x referred =>
    (refs_setSlot referred).elim .inl fun new =>
      (refs x new).imp (Custody.holds_of_slot? found) id

theorem setOwner (after : Untouched start aside known s) (there : r ∈ known) {o : Ref}
    (other : o ∈ known) (free : (s.heap.cell r).owner? = none) :
    Untouched start aside known { s with heap := s.heap.setOwner r o } :=
  after.update there (s.heap.grows_setOwner free) fun x referred =>
    (refs_setOwner referred).imp id fun new => by rwa [List.mem_singleton.mp new]

theorem setResult (after : Untouched start aside known s) (there : r ∈ known) {o : Ref}
    (other : o ∈ known) (free : ∀ v kept, (s.heap.cell r).kind ≠ .view v (some kept)) :
    Untouched start aside known { s with heap := s.heap.setResult r o } :=
  after.update there (s.heap.grows_setResult free) fun x referred =>
    (refs_setResult referred).imp id fun new => by rwa [List.mem_singleton.mp new]

end Untouched

/-! ## The custody -/

namespace Moment

/-- **What is lost stays out of custody**: for every moment, that nothing lost then is used. -/
def custody : Custody Moment where
  Holds m known s := m.After known s
  Whole := True
  Owner _ _ := True
  exist after there := (after.of_known there).1
  fewer after less := after.knowing fun r there => .inl (mem_roots_iff.mpr (.inr (less r there)))
  both after more := after.knowing fun r there => by
    rcases List.mem_append.mp there with there | there
    · exact .inl (mem_roots_iff.mpr (.inr there))
    · exact .inr (more.of_known there)
  held after there holds := after.knowing fun x only => by
    rw [List.mem_singleton.mp only]
    exact .inr (after.held there holds)
  global after found := after.knowing fun x only => by
    rw [List.mem_singleton.mp only]
    exact .inl (mem_roots_of_global found)
  home {m known inUse s r home} after there covers found := after.knowing fun x only => by
    rw [List.mem_singleton.mp only]
    have homed := State.home?_eq found
    have used : m.After inUse s := after.knowing fun x there =>
      .inl (mem_roots_iff.mpr (.inr (covers trivial x there)))
    refine .inr ⟨after.toIntact.exist_home homed, ?_⟩
    rcases (used.toIntact.home?_iff homed).1.mp found with isData | here
    · exact (after.held there (Heap.holds_of_home homed isData)).2
    · exact used.not_lost here
  owner_concrete _ := trivial
  owner_bound _ _ := trivial
  seen after heap globals := after.seen heap globals
  add after heap globals _ refs home := after.add heap globals refs home
  slot after there found grown refs := after.setSlot there found grown refs
  own after there other _ free := after.setOwner there other free
  result after there other free := after.setResult there other free

end Moment

end PhiCalculus
