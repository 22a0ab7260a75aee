import Mathlib.Data.List.Forall2
import PhiCalculus.State

/-!
# Growth of heaps

A heap grows when objects are added to it and the objects that are there only gain content: an empty
free slot is written, a cache or the result of a view is filled, an owner is bound, items are added
after those that a slot has taken already.  The vertex, the form, the home and the names of an
object stay what they are.

Growth is a preorder (`Heap.Grows.refl`, `Heap.Grows.trans`).  Each way to change a heap is a case
of it, provided that what is changed was empty (`Heap.grows_alloc`, `Heap.grows_setSlot`,
`Heap.grows_setOwner`, `Heap.grows_setResult`).  What an object holds can be read off any later heap
(`Heap.Grows.slot`, `Cell.Grows.owner`, `Cell.Grows.view`).
-/

set_option autoImplicit false

namespace PhiCalculus

/-! ## Slots -/

/-- What was there is still there. -/
def Stays (before after : Option Ref) : Prop := ∀ r, before = some r → after = some r

theorem Stays.refl (content : Option Ref) : Stays content content := fun _ h => h

theorem Stays.trans {a b c : Option Ref} (first : Stays a b) (second : Stays b c) : Stays a c :=
  fun r h => second r (first r h)

theorem Stays.of_none (after : Option Ref) : Stays none after := by
  intro r h
  cases h

/-- A slot gains content and keeps what it had. -/
inductive Slot.Grows : Slot → Slot → Prop where
  | free {before after : Option Ref} : Stays before after → Grows (.free before) (.free after)
  | once {origin : Expr} {before after : Option Ref} :
      Stays before after → Grows (.once origin before) (.once origin after)
  | vararg {before after : List Ref} : before <+: after → Grows (.vararg before) (.vararg after)
  | composite (origin : Expr) : Grows (.composite origin) (.composite origin)

namespace Slot.Grows

theorem refl : ∀ s : Slot, Grows s s
  | .free content => .free (Stays.refl content)
  | .once _ cache => .once (Stays.refl cache)
  | .vararg items => .vararg (List.prefix_refl items)
  | .composite origin => .composite origin

theorem trans {a b c : Slot} (first : Grows a b) (second : Grows b c) : Grows a c := by
  cases first with
  | free h => cases second with
    | free h' => exact .free (h.trans h')
  | once h => cases second with
    | once h' => exact .once (h.trans h')
  | vararg h => cases second with
    | vararg h' => exact .vararg (h.trans h')
  | composite origin => exact second

end Slot.Grows

/-- The slots of an object grow one by one, under the same names. -/
def Slots.Grows (before after : Slots) : Prop :=
  List.Forall₂ (fun a b => a.1 = b.1 ∧ a.2.Grows b.2) before after

namespace Slots

theorem Grows.refl (slots : Slots) : Slots.Grows slots slots := by
  induction slots with
  | nil => exact .nil
  | cons a rest ih => exact .cons ⟨rfl, Slot.Grows.refl a.2⟩ ih

theorem Grows.trans {a b c : Slots} (first : Slots.Grows a b) (second : Slots.Grows b c) :
    Slots.Grows a c := by
  induction first generalizing c with
  | nil => exact second
  | cons head _ ih =>
      cases second with
      | cons head' tail' =>
          exact .cons ⟨head.1.trans head'.1, head.2.trans head'.2⟩ (ih tail')

theorem Grows.names {before after : Slots} (h : Slots.Grows before after) :
    after.names = before.names := by
  induction h with
  | nil => rfl
  | cons head _ ih =>
      simp only [Slots.names, List.map_cons] at ih ⊢
      rw [head.1, ih]

theorem find?_cons (n name : String) (s : Slot) (rest : Slots) :
    find? ((n, s) :: rest) name = if name == n then some s else find? rest name := by
  simp only [find?, List.lookup_cons]
  cases name == n <;> rfl

@[simp] theorem names_set {slots : Slots} {name : String} {slot : Slot} :
    (slots.set name slot).names = slots.names := by
  induction slots with
  | nil => rfl
  | cons first rest ih =>
      rw [set]
      split
      · rfl
      · exact congrArg (first.1 :: ·) ih

theorem find?_set_self {slots : Slots} {name : String} {old slot : Slot}
    (found : slots.find? name = some old) :
    (slots.set name slot).find? name = some slot := by
  induction slots with
  | nil => cases found
  | cons first rest ih =>
      obtain ⟨n, s⟩ := first
      rw [find?_cons] at found
      rw [set]
      by_cases same : n = name
      · subst same
        simp [find?_cons]
      · have other : ¬ name = n := fun is => same is.symm
        simp only [beq_iff_eq, same, other, if_false, find?_cons] at found ⊢
        exact ih found

theorem find?_set_of_ne {slots : Slots} {name other : String} {slot : Slot} (ne : other ≠ name) :
    (slots.set name slot).find? other = slots.find? other := by
  induction slots with
  | nil => rfl
  | cons first rest ih =>
      obtain ⟨n, s⟩ := first
      rw [set]
      split
      · next same =>
        obtain rfl : n = name := eq_of_beq same
        simp [find?_cons, ne]
      · rw [find?_cons, find?_cons, ih]

/-- A slot that is declared is declared later on, and has grown. -/
theorem Grows.find? {before after : Slots} (h : Slots.Grows before after) {name : String}
    {s : Slot} (found : before.find? name = some s) :
    ∃ s', after.find? name = some s' ∧ s.Grows s' := by
  induction h with
  | nil => cases found
  | @cons a b rest rest' head _ ih =>
      obtain ⟨n, old⟩ := a
      obtain ⟨n', new⟩ := b
      obtain ⟨rfl, grown⟩ := head
      rw [find?_cons] at found ⊢
      split at found
      · cases found
        exact ⟨new, by simp_all, grown⟩
      · obtain ⟨s', found', grown'⟩ := ih found
        exact ⟨s', by simp_all, grown'⟩

theorem grows_set {slots : Slots} {name : String} {s s' : Slot}
    (found : slots.find? name = some s) (grown : s.Grows s') :
    Slots.Grows slots (slots.set name s') := by
  induction slots with
  | nil => exact .nil
  | cons a rest ih =>
      obtain ⟨n, old⟩ := a
      rw [find?_cons] at found
      simp only [Slots.set]
      by_cases same : n = name
      · subst same
        simp only [beq_self_eq_true, if_true, Option.some.injEq] at found ⊢
        subst found
        exact .cons ⟨rfl, grown⟩ (Grows.refl rest)
      · have other : ¬ (name == n) = true := fun h => same (beq_iff_eq.mp h).symm
        rw [if_neg other] at found
        simp only [beq_iff_eq, same, if_false]
        exact .cons ⟨rfl, Slot.Grows.refl old⟩ (ih found)

end Slots

/-! ## Objects -/

/-- An object gains content and keeps what it had. -/
inductive Kind.Grows : Kind → Kind → Prop where
  | table {t t' : Table} (form : t'.form = t.form) (home : t'.home = t.home)
      (owner : Stays t.owner t'.owner) (slots : Slots.Grows t.slots t'.slots) :
      Grows (.table t) (.table t')
  | data (v : Value) : Grows (.data v) (.data v)
  | view {v : View} {before after : Option Ref} :
      Stays before after → Grows (.view v before) (.view v after)

namespace Kind.Grows

theorem refl : ∀ k : Kind, Grows k k
  | .table t => .table rfl rfl (Stays.refl t.owner) (Slots.Grows.refl t.slots)
  | .data v => .data v
  | .view _ result => .view (Stays.refl result)

theorem trans {a b c : Kind} (first : Grows a b) (second : Grows b c) : Grows a c := by
  cases first with
  | table form home owner slots =>
      cases second with
      | table form' home' owner' slots' =>
          exact .table (form'.trans form) (home'.trans home) (owner.trans owner')
            (slots.trans slots')
  | data v => exact second
  | view h =>
      cases second with
      | view h' => exact .view (h.trans h')

end Kind.Grows

/-- A cell keeps its vertex while its object grows. -/
structure Cell.Grows (before after : Cell) : Prop where
  vertex : after.vertex = before.vertex
  kind : before.kind.Grows after.kind

namespace Cell.Grows

variable {c c' : Cell}

theorem refl (c : Cell) : Cell.Grows c c := ⟨rfl, Kind.Grows.refl c.kind⟩

theorem trans {a b c : Cell} (first : Cell.Grows a b) (second : Cell.Grows b c) :
    Cell.Grows a c :=
  ⟨second.vertex.trans first.vertex, first.kind.trans second.kind⟩

theorem form (h : Cell.Grows c c') : c'.form = c.form := by
  obtain ⟨v, k⟩ := c
  obtain ⟨v', k'⟩ := c'
  cases h.kind with
  | table form => exact form
  | data v => rfl
  | view _ => rfl

theorem home? (h : Cell.Grows c c') : c'.home? = c.home? := by
  obtain ⟨v, k⟩ := c
  obtain ⟨v', k'⟩ := c'
  cases h.kind with
  | table _ home => exact home
  | data v => rfl
  | view _ => rfl

theorem slots (h : Cell.Grows c c') : Slots.Grows c.slots c'.slots := by
  obtain ⟨v, k⟩ := c
  obtain ⟨v', k'⟩ := c'
  cases h.kind with
  | table _ _ _ slots => exact slots
  | data v => exact Slots.Grows.refl _
  | view _ => exact Slots.Grows.refl _

theorem owner (h : Cell.Grows c c') : Stays c.owner? c'.owner? := by
  obtain ⟨v, k⟩ := c
  obtain ⟨v', k'⟩ := c'
  cases h.kind with
  | table _ _ owner _ => exact owner
  | data v => exact Stays.refl _
  | view _ => exact Stays.refl _

theorem value? (h : Cell.Grows c c') : c'.value? = c.value? := by
  obtain ⟨v, k⟩ := c
  obtain ⟨v', k'⟩ := c'
  cases h.kind <;> rfl

theorem isView (h : Cell.Grows c c') : c'.isView = c.isView := by
  obtain ⟨v, k⟩ := c
  obtain ⟨v', k'⟩ := c'
  cases h.kind <;> rfl

theorem subject (h : Cell.Grows c c') : c'.subject = c.subject := by
  rw [Cell.subject, Cell.subject, h.vertex, h.form]

theorem isData (h : Cell.Grows c c') : c'.isData = c.isData := by
  rw [Cell.isData, Cell.isData, h.value?]

/-- A view derives its object the same way later on, and keeps the result that it has. -/
theorem view {v : View} {result : Option Ref} (h : Cell.Grows c c')
    (isView : c.kind = .view v result) :
    ∃ result', c'.kind = .view v result' ∧ Stays result result' := by
  have grown := h.kind
  rw [isView] at grown
  generalize c'.kind = k' at grown ⊢
  cases grown with
  | view kept => exact ⟨_, rfl, kept⟩

end Cell.Grows

/-! ## Places in a heap -/

namespace Heap

variable (h : Heap)

@[simp] theorem size_alloc (c : Cell) : (h.alloc c).2.size = h.size + 1 := by
  simp [alloc, size]

/-- A place in a heap to which an object is added is an old one or that of the object. -/
theorem lt_size_alloc {c : Cell} {r : Ref} :
    r.index < (h.alloc c).2.size ↔ r.index < h.size ∨ r = ⟨h.size⟩ := by
  rw [size_alloc, Nat.lt_succ_iff_lt_or_eq]
  exact or_congr Iff.rfl ⟨congrArg Ref.mk, congrArg Ref.index⟩

@[simp] theorem size_update (r : Ref) (f : Kind → Kind) : (h.update r f).size = h.size := by
  simp [update, size]

theorem cell_alloc_of_lt (c : Cell) {r : Ref} (old : r.index < h.size) :
    (h.alloc c).2.cell r = h.cell r := by
  simp only [size] at old
  simp [alloc, cell, Array.getElem?_push, Nat.ne_of_lt old]

@[simp] theorem cell_alloc_self (c : Cell) : (h.alloc c).2.cell (h.alloc c).1 = c := by
  simp [alloc, cell]

theorem cell_update_self {r : Ref} (old : r.index < h.size) (f : Kind → Kind) :
    (h.update r f).cell r = { h.cell r with kind := f (h.cell r).kind } := by
  simp only [size] at old
  simp [update, cell, Array.getElem_modify, old]

theorem cell_update_of_ne {r other : Ref} (ne : other ≠ r) (f : Kind → Kind) :
    (h.update r f).cell other = h.cell other := by
  have : r.index ≠ other.index := fun same => ne (by cases r; cases other; simp_all)
  simp [update, cell, Array.getElem?_modify, this]

/-- Changing an object that was just added is adding it changed. -/
theorem update_alloc (c : Cell) (f : Kind → Kind) :
    (h.alloc c).2.update (h.alloc c).1 f = (h.alloc { c with kind := f c.kind }).2 := by
  have same : (h.cells.push c).modify h.cells.size (fun c => { c with kind := f c.kind }) =
      h.cells.push { c with kind := f c.kind } := by
    apply Array.ext_getElem?
    intro i
    rw [Array.getElem?_modify, Array.getElem?_push, Array.getElem?_push]
    by_cases last : i = h.cells.size
    · simp [last]
    · simp [last, Ne.symm last]
  exact congrArg Heap.mk same

/-- Outside of the heap there is nothing. -/
theorem cell_of_ge {r : Ref} (out : ¬ r.index < h.size) : h.cell r = default := by
  simp only [cell, size] at out ⊢
  simp [Array.getD, out]

/-- What is at a place after an object is added: what was there, the object, or nothing. -/
theorem cell_alloc_cases (c : Cell) (r : Ref) :
    (r.index < h.size ∧ (h.alloc c).2.cell r = h.cell r) ∨
      (r = ⟨h.size⟩ ∧ (h.alloc c).2.cell r = c) ∨
        (¬ r.index < (h.alloc c).2.size ∧ (h.alloc c).2.cell r = default) := by
  by_cases exist : r.index < (h.alloc c).2.size
  · rcases h.lt_size_alloc.mp exist with old | rfl
    · exact .inl ⟨old, h.cell_alloc_of_lt c old⟩
    · exact .inr (.inl ⟨rfl, h.cell_alloc_self c⟩)
  · exact .inr (.inr ⟨exist, cell_of_ge _ exist⟩)

/-- What declares a slot exists. -/
theorem lt_size_of_slot? {h : Heap} {r : Ref} {name : String} {s : Slot}
    (found : h.slot? r name = some s) : r.index < h.size := by
  by_contra out
  rw [slot?, h.cell_of_ge out] at found
  cases found

/-- What a change of an object does not show in stays for all objects. -/
theorem look_update {β : Type} (look : Cell → β) {f : Kind → Kind}
    (same : ∀ v k, look ⟨v, f k⟩ = look ⟨v, k⟩) (r o : Ref) :
    look ((h.update r f).cell o) = look (h.cell o) := by
  by_cases other : o = r
  · subst other
    by_cases exist : o.index < h.size
    · rw [h.cell_update_self exist]
      exact same _ _
    · have out : ¬ o.index < (h.update o f).size := by rwa [size_update]
      rw [cell_of_ge _ out, cell_of_ge _ exist]
  · rw [h.cell_update_of_ne other]

/-- A change that does not concern slots leaves all slots alone. -/
theorem slot?_update {f : Kind → Kind}
    (same : ∀ v k, (Cell.mk v (f k)).slots = (Cell.mk v k).slots) (r o : Ref) (name : String) :
    (h.update r f).slot? o name = h.slot? o name :=
  h.look_update (fun c => c.slots.find? name) (fun v k => congrArg (Slots.find? · name) (same v k))
    r o

theorem slot?_setOwner (r owner o : Ref) (name : String) :
    (h.setOwner r owner).slot? o name = h.slot? o name :=
  h.slot?_update (fun _ k => by cases k <;> rfl) r o name

theorem slot?_setResult (r result o : Ref) (name : String) :
    (h.setResult r result).slot? o name = h.slot? o name :=
  h.slot?_update (fun _ k => by cases k <;> rfl) r o name

theorem owner?_setSlot (r : Ref) (name : String) (new : Slot) (o : Ref) :
    ((h.setSlot r name new).cell o).owner? = (h.cell o).owner? :=
  h.look_update Cell.owner? (fun _ k => by cases k <;> rfl) r o

/-- Adding an object leaves the slots alone that are there. -/
theorem slot?_alloc {h : Heap} (c : Cell) {o : Ref} {name : String} {s : Slot}
    (found : h.slot? o name = some s) : (h.alloc c).2.slot? o name = some s := by
  rw [slot?, h.cell_alloc_of_lt c (lt_size_of_slot? found)]
  exact found

/-- A view exists. -/
theorem lt_size_of_view {h : Heap} {r : Ref} {v : View} {result : Option Ref}
    (kind : (h.cell r).kind = .view v result) : r.index < h.size := by
  by_contra out
  rw [h.cell_of_ge out] at kind
  cases kind

/-- A value exists. -/
theorem lt_size_of_isData {h : Heap} {r : Ref} (isData : (h.cell r).isData = true) :
    r.index < h.size := by
  by_contra out
  rw [h.cell_of_ge out] at isData
  cases isData

end Heap

/-! ## Heaps -/

/-- Objects are added, and those that are there gain content and keep what they had. -/
structure Heap.Grows (before after : Heap) : Prop where
  size : before.size ≤ after.size
  cell : ∀ r : Ref, r.index < before.size → (before.cell r).Grows (after.cell r)

namespace Heap

namespace Grows

variable {h h' : Heap} {r : Ref} {name : String}

theorem refl (h : Heap) : h.Grows h := ⟨Nat.le_refl _, fun r _ => Cell.Grows.refl (h.cell r)⟩

theorem trans {a b c : Heap} (first : a.Grows b) (second : b.Grows c) : a.Grows c :=
  ⟨Nat.le_trans first.size second.size, fun r old =>
    (first.cell r old).trans (second.cell r (Nat.lt_of_lt_of_le old first.size))⟩

theorem vertex (grown : h.Grows h') (old : r.index < h.size) : h'.vertex r = h.vertex r :=
  (grown.cell r old).vertex

/-- A slot that an object declares is declared later on, and has grown. -/
theorem slot (grown : h.Grows h') {s : Slot} (found : h.slot? r name = some s) :
    ∃ s', h'.slot? r name = some s' ∧ s.Grows s' :=
  (grown.cell r (lt_size_of_slot? found)).slots.find? found

theorem free (grown : h.Grows h') {content : Option Ref}
    (found : h.slot? r name = some (.free content)) :
    ∃ content', h'.slot? r name = some (.free content') ∧ Stays content content' := by
  obtain ⟨s', found', grows⟩ := grown.slot found
  cases grows with
  | free kept => exact ⟨_, found', kept⟩

theorem once (grown : h.Grows h') {origin : Expr} {cache : Option Ref}
    (found : h.slot? r name = some (.once origin cache)) :
    ∃ cache', h'.slot? r name = some (.once origin cache') ∧ Stays cache cache' := by
  obtain ⟨s', found', grows⟩ := grown.slot found
  cases grows with
  | once kept => exact ⟨_, found', kept⟩

theorem vararg (grown : h.Grows h') {items : List Ref}
    (found : h.slot? r name = some (.vararg items)) :
    ∃ items', h'.slot? r name = some (.vararg items') ∧ items <+: items' := by
  obtain ⟨s', found', grows⟩ := grown.slot found
  cases grows with
  | vararg longer => exact ⟨_, found', longer⟩

theorem composite (grown : h.Grows h') {origin : Expr}
    (found : h.slot? r name = some (.composite origin)) :
    h'.slot? r name = some (.composite origin) := by
  obtain ⟨s', found', grows⟩ := grown.slot found
  cases grows
  exact found'

end Grows

variable (h : Heap)

theorem grows_alloc (c : Cell) : h.Grows (h.alloc c).2 where
  size := by simp
  cell r old := by
    rw [h.cell_alloc_of_lt c old]
    exact Cell.Grows.refl _

theorem grows_update {r : Ref} {f : Kind → Kind}
    (grown : (h.cell r).kind.Grows (f (h.cell r).kind)) : h.Grows (h.update r f) where
  size := by simp
  cell other old := by
    by_cases same : other = r
    · subst same
      rw [h.cell_update_self old]
      exact ⟨rfl, grown⟩
    · rw [h.cell_update_of_ne same]
      exact Cell.Grows.refl _

theorem grows_setSlot {r : Ref} {name : String} {s s' : Slot} (found : h.slot? r name = some s)
    (grown : s.Grows s') : h.Grows (h.setSlot r name s') := by
  refine h.grows_update ?_
  simp only [slot?, Cell.slots] at found
  cases kind : (h.cell r).kind with
  | table t =>
      rw [kind] at found
      exact .table rfl rfl (Stays.refl _) (Slots.grows_set found grown)
  | data v => exact .data v
  | view v result => exact .view (Stays.refl _)

theorem grows_setOwner {r owner : Ref} (free : (h.cell r).owner? = none) :
    h.Grows (h.setOwner r owner) := by
  refine h.grows_update ?_
  simp only [Cell.owner?] at free
  cases kind : (h.cell r).kind with
  | table t =>
      rw [kind] at free
      have kept : Stays t.owner (some owner) := by
        rw [show t.owner = none from free]
        exact Stays.of_none _
      exact .table rfl rfl kept (Slots.Grows.refl _)
  | data v => exact .data v
  | view v result => exact .view (Stays.refl _)

theorem grows_setResult {r result : Ref}
    (open' : ∀ v kept, (h.cell r).kind ≠ .view v (some kept)) :
    h.Grows (h.setResult r result) := by
  refine h.grows_update ?_
  cases kind : (h.cell r).kind with
  | table t => exact Kind.Grows.refl _
  | data v => exact .data v
  | view v before =>
      cases before with
      | none => exact .view (Stays.of_none _)
      | some kept => exact absurd kind (open' v kept)

end Heap

end PhiCalculus
