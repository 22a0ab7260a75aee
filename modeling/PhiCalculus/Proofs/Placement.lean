import PhiCalculus.Proofs.Lifetimes
import PhiCalculus.Proofs.Likeness
import PhiCalculus.Proofs.Numbering

/-!
# Runs in other places

A run may begin in a heap that has more in it than the prototypes, or has them in other places.  A
placement says where the objects of a run of one program are in such a run of another one
(`Placement`): a prototype is where the same prototype is, and the objects of the run come in the
same order after everything that was there at the start.  Nothing that was there refers to an object
of the run, and the run refers to nothing of it but prototypes (`Placement.Alike`).

So an object is gone in the one run if it is gone in the other (`Placement.Alike.gone_iff`), its
term is the same, and it shares its vertex with the same objects of the run.  That makes the two
runs alike (`Placement.likeness`).
-/

set_option autoImplicit false

namespace PhiCalculus

/-! ## What objects hold -/

/-- What an object holds it refers to, as its home or otherwise. -/
theorem Heap.mem_of_holds {h : Heap} {r x : Ref} (holds : x ∈ h.holds r) :
    (h.cell r).home? = some x ∨ x ∈ (h.cell r).refs := by
  rw [Heap.holds] at holds
  split at holds
  · next home homed =>
    split at holds
    · rcases List.mem_cons.mp holds with rfl | there
      · exact .inl homed
      · exact .inr there
    · exact .inr holds
  · exact .inr holds

namespace State.Fits

variable {p : Program} {s start : State} {r : Ref}

/-- The slots of a table refer to what they show, and to nothing else. -/
theorem refs_of_slot (fits : s.Fits p) (exist : r.index < s.heap.size) {t : Table}
    (kind : (s.heap.cell r).kind = .table t) {name : String} {slot : Slot}
    (there : (name, slot) ∈ t.slots) : slot.refs = slot.shown := by
  obtain ⟨role, plays⟩ := fits.plays exist kind
  obtain ⟨home, t', kind', -, slots⟩ := plays.made
  cases kind.symm.trans kind'
  obtain ⟨e, declared, made⟩ := slots.sound name slot there
  have none := plays.refs fits.checked declared
  cases made with
  | free content => rfl
  | vararg items => rfl
  | once origin cache => exact (congrArg (cache.toList ++ ·) none).trans (List.append_nil _)
  | composite origin => exact none

/-- In a run, what objects hold exists. -/
theorem closed (fits : s.Fits p) : s.heap.Closed := by
  intro r x holds
  have exist := Heap.exist_of_holds holds
  rcases Heap.mem_of_holds holds with homed | there
  · exact (fits.ordinary_of_home homed).exist
  · rw [Cell.refs] at there
    cases kind : (s.heap.cell r).kind with
    | table t =>
        simp only [kind, List.mem_append] at there
        rcases there with owned | there
        · have owned : (s.heap.cell r).owner? = some x := by
            rw [Cell.owner?, kind]
            exact Option.mem_toList.mp owned
          exact (fits.ordinary_of_owner owned).exist
        · obtain ⟨⟨name, slot⟩, declared, there⟩ := List.mem_flatMap.mp there
          rw [fits.refs_of_slot exist kind declared] at there
          exact (fits.contents exist kind declared there).exist
    | data v =>
        simp only [kind] at there
        exact (fits.ordinary_of_items kind there).exist
    | view v result =>
        obtain ⟨base, results⟩ := fits.view kind
        simp only [kind, List.mem_append] at there
        rcases there with there | result
        · cases v with
          | copy base' => exact List.mem_singleton.mp there ▸ base
          | _ => exact (base x there).exist
        · exact (results x (Option.mem_toList.mp result)).1.exist

/-- Objects that are as they were in an earlier state hold what they held. -/
theorem holds_eq (fits : start.Fits p) {h : Heap}
    (same : ∀ r : Ref, r.index < start.heap.size → h.cell r = start.heap.cell r)
    (early : r.index < start.heap.size) : h.holds r = start.heap.holds r := by
  rw [Heap.holds, Heap.holds, same r early]
  cases homed : (start.heap.cell r).home? with
  | none => rfl
  | some home => simp only [same home (fits.ordinary_of_home homed).exist]

/-- Nothing that is as it was in an earlier state holds a later object. -/
theorem late_of_holds (fits : start.Fits p) {h : Heap}
    (same : ∀ r : Ref, r.index < start.heap.size → h.cell r = start.heap.cell r) {x : Ref}
    (late : start.heap.size ≤ r.index) (holds : r ∈ h.holds x) : start.heap.size ≤ x.index := by
  by_contra early
  rw [fits.holds_eq same (Nat.lt_of_not_le early)] at holds
  exact absurd (fits.closed x r holds) (Nat.not_lt_of_le late)

end State.Fits

/-- An object still exists if it is in use, or global, or not gone. -/
theorem State.isAlive_iff {s : State} (closed : s.heap.Closed) {held : List Ref} {r : Ref} :
    s.isAlive held r = true ↔ r ∈ held ∨ r ∈ s.globals.map (·.2) ∨
      r.index < s.heap.size ∧ ¬ s.heap.Gone (s.globals.map (·.2) ++ held) r := by
  rw [State.isAlive, Bool.or_eq_true, Bool.or_eq_true, List.contains_iff_mem,
    Heap.survives_iff closed, or_assoc, List.any_eq_true, List.mem_map]
  simp only [beq_iff_eq]

/-! ## Placements -/

/-- Where the objects of a run of the first program are in a run of the second one that begins in
`start`. -/
structure Placement (p p' : Program) (start : State) where
  place : Ref → Ref
  injective : Function.Injective place
  before : start.Fits p'
  checked : p.check = .ok ()
  size : p.base.heap.size ≤ start.heap.size
  early : ∀ r : Ref, r.index < p.base.heap.size → (place r).index < start.heap.size
  late : ∀ r : Ref, p.base.heap.size ≤ r.index →
    (place r).index + p.base.heap.size = r.index + start.heap.size
  prototypes : ∀ r : Ref, r.index < p.base.heap.size →
    (start.heap.cell (place r)).kind = (p.base.heap.cell r).kind
  global? : ∀ name, start.global? name = (p.base.global? name).map place

namespace Placement

variable {p p' : Program} {start : State}

section

variable (π : Placement p p' start) {r : Ref}

/-- Objects that are no prototypes come after what there was at the start. -/
theorem late_place (late : p.base.heap.size ≤ r.index) : start.heap.size ≤ (π.place r).index := by
  have place := π.late r late
  omega

theorem le_place (late : p.base.heap.size ≤ r.index) : r.index ≤ (π.place r).index := by
  have place := π.late r late
  have size := π.size
  omega

theorem place_lt_iff {n n' : Nat} (base : p.base.heap.size ≤ n)
    (size : n' + p.base.heap.size = n + start.heap.size) :
    (π.place r).index < n' ↔ r.index < n := by
  by_cases early : r.index < p.base.heap.size
  · have place := π.early r early
    omega
  · have place := π.late r (Nat.le_of_not_lt early)
    omega

/-- What comes after the start is in the place of an object. -/
theorem exists_place (late : start.heap.size ≤ r.index) :
    ∃ o, p.base.heap.size ≤ o.index ∧ π.place o = r := by
  have size := π.size
  have further : p.base.heap.size ≤ r.index - start.heap.size + p.base.heap.size :=
    Nat.le_add_left _ _
  have place := π.late ⟨r.index - start.heap.size + p.base.heap.size⟩ further
  refine ⟨⟨r.index - start.heap.size + p.base.heap.size⟩, further, congrArg Ref.mk ?_⟩
  change (π.place _).index = r.index
  change _ = r.index - start.heap.size + p.base.heap.size + start.heap.size at place
  omega

/-- A new object is in the place of the new object. -/
theorem place_size {n n' : Nat} (base : p.base.heap.size ≤ n)
    (size : n' + p.base.heap.size = n + start.heap.size) : π.place ⟨n⟩ = ⟨n'⟩ := by
  have place := π.late ⟨n⟩ base
  refine congrArg Ref.mk (?_ : (π.place ⟨n⟩).index = n')
  change _ = n + start.heap.size at place
  omega

end

/-! ## States that correspond -/

/-- The second state has the objects of the first one in their places, and what was there at its
start. -/
structure Alike (π : Placement p p' start) (s s' : State) : Prop where
  base : p.base.heap.size ≤ s.heap.size
  size : s'.heap.size + p.base.heap.size = s.heap.size + start.heap.size
  kind : ∀ r : Ref, r.index < s.heap.size →
    (s'.heap.cell (π.place r)).kind = (s.heap.cell r).kind.rename π.place
  earlier : ∀ r : Ref, r.index < start.heap.size → s'.heap.cell r = start.heap.cell r
  globals : s.globals = p.base.globals
  globals' : s'.globals = start.globals
  numbered : s.Numbered
  numbered' : s'.Numbered
  labels : ∀ (r : Ref) (key : TypeTag × String), r.index < s.heap.size →
    (s'.registry.Labels key (s'.heap.vertex (π.place r)) ↔
      s.registry.Labels key (s.heap.vertex r))

namespace Alike

variable {π : Placement p p' start} {s s' : State} {r : Ref}

theorem exist_iff (alike : π.Alike s s') :
    (π.place r).index < s'.heap.size ↔ r.index < s.heap.size :=
  π.place_lt_iff alike.base alike.size

theorem start_le (alike : π.Alike s s') : start.heap.size ≤ s'.heap.size := by
  have base := alike.base
  have size := alike.size
  omega

/-- Outside of the heap there is nothing in either state. -/
theorem kind_eq (alike : π.Alike s s') (r : Ref) :
    (s'.heap.cell (π.place r)).kind = (s.heap.cell r).kind.rename π.place := by
  by_cases exist : r.index < s.heap.size
  · exact alike.kind r exist
  · rw [s.heap.cell_of_ge exist, s'.heap.cell_of_ge (alike.exist_iff.not.mpr exist)]
    rfl

/-- Objects of the run have one vertex in both states or in neither. -/
theorem vertex (alike : π.Alike s s') {a b : Ref} (exist : a.index < s.heap.size)
    (exist' : b.index < s.heap.size) :
    s'.heap.vertex (π.place a) = s'.heap.vertex (π.place b) ↔
      s.heap.vertex a = s.heap.vertex b := by
  rw [alike.numbered.vertex_iff exist exist',
    alike.numbered'.vertex_iff (alike.exist_iff.mpr exist) (alike.exist_iff.mpr exist'),
    π.injective.eq_iff]
  simp only [alike.labels a _ exist, alike.labels b _ exist']

theorem global? (alike : π.Alike s s') (name : String) :
    s'.global? name = (s.global? name).map π.place := by
  rw [State.global?, State.global?, alike.globals, alike.globals']
  exact π.global? name

/-! ## Objects that still exist -/

section

variable (alike : π.Alike s s') (fits : s.Fits p)
include alike fits

theorem refs (exist : r.index < s.heap.size) :
    (s'.heap.cell (π.place r)).refs = (s.heap.cell r).refs.map π.place := by
  rw [Cell.refs, Cell.refs, alike.kind r exist]
  cases kind : (s.heap.cell r).kind with
  | table t =>
      have slots : (Slots.rename π.place t.slots).refs =
          t.slots.refs.map π.place := by
        rw [Slots.refs, Slots.refs, Slots.rename, List.flatMap_map, List.map_flatMap]
        refine List.flatMap_congr ?_
        rintro ⟨name, slot⟩ there
        have shown := fits.refs_of_slot exist kind there
        rw [shown]
        cases slot with
        | free content => exact Slot.shown_rename _ (.free content)
        | vararg items => rfl
        | once origin cache =>
            have none : origin.refs = [] := by simpa [Slot.refs, Slot.shown] using shown
            rw [Slot.rename, Slot.refs, none, List.append_nil]
            exact Slot.shown_rename _ (.once origin cache)
        | composite origin => simpa [Slot.rename, Slot.refs, Slot.shown] using shown
      simp only [Kind.rename, Table.rename, slots, List.map_append, Option.toList_map]
  | data v => exact v.items_rename
  | view v result => simp only [Kind.rename, View.refs_rename, List.map_append, Option.toList_map]

/-- Objects of the run hold what corresponds. -/
theorem holds (exist : r.index < s.heap.size) :
    s'.heap.holds (π.place r) = (s.heap.holds r).map π.place := by
  rw [Heap.holds, Heap.holds, Cell.home?_of_rename (alike.kind r exist), alike.refs fits exist]
  cases homed : (s.heap.cell r).home? with
  | none => rfl
  | some home =>
      have there := (fits.ordinary_of_home homed).exist
      simp only [Option.map_some, Cell.isData_of_rename (alike.kind home there)]
      split <;> rfl

theorem closed : s'.heap.Closed := by
  intro x y holds
  by_cases early : x.index < start.heap.size
  · rw [π.before.holds_eq alike.earlier early] at holds
    have there := π.before.closed x y holds
    have sizes := alike.size
    have base := alike.base
    omega
  · obtain ⟨r, -, rfl⟩ := π.exists_place (Nat.le_of_not_lt early)
    rw [alike.holds fits (alike.exist_iff.mp (Heap.exist_of_holds holds))] at holds
    obtain ⟨o, held, rfl⟩ := List.mem_map.mp holds
    exact alike.exist_iff.mpr (fits.closed r o held)

/-- **An object of the first run is gone in both or in neither.** -/
theorem gone_iff {inUse inUse' : List Ref}
    (used : ∀ r, s.heap.Ordinary p r → (π.place r ∈ inUse' ↔ r ∈ inUse))
    (ordinary : s.heap.Ordinary p r) :
    s'.heap.Gone inUse' (π.place r) ↔ s.heap.Gone inUse r := by
  constructor
  · intro gone
    generalize same : π.place r = r' at gone
    induction gone generalizing r with
    | mk unused _ ih =>
        subst same
        refine .mk (fun there => unused ((used r ordinary).mpr there)) fun x holds => ?_
        have exist := Heap.exist_of_holds holds
        have late := (p.fits_base fits.checked).late_of_holds fits.prototypes ordinary.late holds
        refine ih (π.place x) ?_ ⟨late, exist⟩ rfl
        rw [alike.holds fits exist]
        exact List.mem_map_of_mem holds
  · intro gone
    induction gone with
    | @mk r unused _ ih =>
        refine .mk (fun there => unused ((used r ordinary).mp there)) fun x' holds => ?_
        have late := π.late_place ordinary.late
        obtain ⟨x, late, rfl⟩ :=
          π.exists_place (π.before.late_of_holds alike.earlier late holds)
        have exist := alike.exist_iff.mp (Heap.exist_of_holds holds)
        rw [alike.holds fits exist] at holds
        exact ih x ((List.mem_map_of_injective π.injective).mp holds) ⟨late, exist⟩

/-- **What still exists of the first run is the same**, whatever else is in use. -/
theorem isAlive {held kept : List Ref} (kept_early : ∀ x ∈ kept, x.index < start.heap.size)
    (ordinary : s.heap.Ordinary p r) :
    s'.isAlive (held.map π.place ++ kept) (π.place r) = s.isAlive held r := by
  have held_iff {r : Ref} (late : p.base.heap.size ≤ r.index) :
      π.place r ∈ held.map π.place ++ kept ↔ r ∈ held := by
    have other : π.place r ∉ kept := fun there =>
      Nat.not_lt_of_le (π.late_place late) (kept_early _ there)
    rw [List.mem_append, List.mem_map_of_injective π.injective, or_iff_left other]
  -- global objects are prototypes
  have global_iff {r : Ref} (late : p.base.heap.size ≤ r.index) :
      π.place r ∈ s'.globals.map (·.2) ↔ r ∈ s.globals.map (·.2) := by
    rw [alike.globals, alike.globals', π.before.globals]
    refine iff_of_false (fun there => ?_) fun there => ?_
    · obtain ⟨entry, defined, same⟩ := List.mem_map.mp there
      have exist := Nat.lt_of_lt_of_le (p'.defined_base entry defined) π.before.size
      rw [same] at exist
      exact Nat.not_lt_of_le (π.late_place late) exist
    · obtain ⟨entry, defined, rfl⟩ := List.mem_map.mp there
      exact Nat.not_lt_of_le late (p.defined_base entry defined)
  have used (r : Ref) (ordinary : s.heap.Ordinary p r) :
      π.place r ∈ s'.globals.map (·.2) ++ (held.map π.place ++ kept) ↔
        r ∈ s.globals.map (·.2) ++ held :=
    List.mem_append.trans (Iff.trans
      (or_congr (global_iff ordinary.late) (held_iff ordinary.late)) List.mem_append.symm)
  rw [Bool.eq_iff_iff, State.isAlive_iff (alike.closed fits), State.isAlive_iff fits.closed,
    held_iff ordinary.late, global_iff ordinary.late, alike.exist_iff,
    alike.gone_iff fits used ordinary]

end

/-! ## What the runs do -/

/-- An object is added in both states. -/
theorem add (alike : π.Alike s s') {key : Option (TypeTag × String)}
    {v v' : Vertex} {g g' : Registry} (hands : s.registry.Hands key v g)
    (hands' : s'.registry.Hands key v' g') {k : Kind} (plain : ∀ t, k = .table t → key = none) :
    π.Alike { s with heap := (s.heap.alloc ⟨v, k⟩).2, registry := g }
      { s' with heap := (s'.heap.alloc ⟨v', k.rename π.place⟩).2, registry := g' } := by
  have new : π.place ⟨s.heap.size⟩ = ⟨s'.heap.size⟩ := π.place_size alike.base alike.size
  have plain' (t : Table) (is : k.rename π.place = .table t) : key = none := by
    cases k with
    | table t => exact plain t rfl
    | data v => cases is
    | view v result => cases is
  have split {r : Ref} (exist : r.index < (s.heap.alloc ⟨v, k⟩).2.size) :
      r.index < s.heap.size ∨ r = ⟨s.heap.size⟩ := s.heap.lt_size_alloc.mp exist
  have old {r : Ref} (exist : r.index < s.heap.size) :
      (s.heap.alloc ⟨v, k⟩).2.cell r = s.heap.cell r := s.heap.cell_alloc_of_lt _ exist
  have old' {r : Ref} (exist : r.index < s'.heap.size) :
      (s'.heap.alloc ⟨v', k.rename π.place⟩).2.cell r = s'.heap.cell r :=
    s'.heap.cell_alloc_of_lt _ exist
  have last : (s.heap.alloc ⟨v, k⟩).2.cell ⟨s.heap.size⟩ = ⟨v, k⟩ := s.heap.cell_alloc_self _
  have last' : (s'.heap.alloc ⟨v', k.rename π.place⟩).2.cell ⟨s'.heap.size⟩ =
      ⟨v', k.rename π.place⟩ := s'.heap.cell_alloc_self _
  exact {
    base := Nat.le_trans alike.base (s.heap.grows_alloc _).size
    size := by
      have size := alike.size
      rw [Heap.size_alloc, Heap.size_alloc]
      omega
    kind := by
      intro r exist
      rcases split exist with exist | rfl
      · rw [old exist, old' (alike.exist_iff.mpr exist)]
        exact alike.kind r exist
      · rw [new, last, last']
    earlier := by
      intro r early
      rw [old' (Nat.lt_of_lt_of_le early alike.start_le)]
      exact alike.earlier r early
    globals := alike.globals
    globals' := alike.globals'
    numbered := alike.numbered.add hands plain
    numbered' := alike.numbered'.add hands' plain'
    labels := by
      intro r label exist
      rcases split exist with exist | rfl
      · have exist' := alike.exist_iff.mpr exist
        rw [Heap.vertex, Heap.vertex, old exist, old' exist']
        refine (hands'.labels_of_used alike.numbered'.registry
          (alike.numbered'.used _ exist')).trans ?_
        exact (alike.labels r label exist).trans
          (hands.labels_of_used alike.numbered.registry (alike.numbered.used r exist)).symm
      · rw [Heap.vertex, Heap.vertex, new, last, last']
        exact (hands'.labels_iff alike.numbered'.registry).trans
          (hands.labels_iff alike.numbered.registry).symm }

/-- An object of the run is changed in the same way in both states. -/
theorem update (alike : π.Alike s s')
    (ordinary : s.heap.Ordinary p r) {f f' : Kind → Kind}
    (same : ∀ k, f' (k.rename π.place) = (f k).rename π.place)
    (numbered : State.Numbered { s with heap := s.heap.update r f })
    (numbered' : State.Numbered { s' with heap := s'.heap.update (π.place r) f' }) :
    π.Alike { s with heap := s.heap.update r f }
      { s' with heap := s'.heap.update (π.place r) f' } := by
  have exist' := alike.exist_iff.mpr ordinary.exist
  exact {
    base := by
      rw [Heap.size_update]
      exact alike.base
    size := by
      rw [Heap.size_update, Heap.size_update]
      exact alike.size
    kind := by
      intro o exist
      rw [Heap.size_update] at exist
      by_cases changed : o = r
      · subst changed
        rw [s.heap.cell_update_self exist, s'.heap.cell_update_self exist', alike.kind o exist]
        exact same _
      · rw [s.heap.cell_update_of_ne changed,
          s'.heap.cell_update_of_ne (π.injective.ne changed)]
        exact alike.kind o exist
    earlier := by
      intro o early
      have other : o ≠ π.place r := by
        rintro rfl
        exact Nat.not_lt_of_le (π.late_place ordinary.late) early
      rw [s'.heap.cell_update_of_ne other]
      exact alike.earlier o early
    globals := alike.globals
    globals' := alike.globals'
    numbered := numbered
    numbered' := numbered'
    labels := by
      intro o label exist
      rw [Heap.size_update] at exist
      rw [Heap.vertex_update, Heap.vertex_update]
      exact alike.labels o label exist }

end Alike

end Placement

theorem Slots.set_rename {σ : Ref → Ref} (slots : Slots) (name : String) (slot : Slot) :
    (Slots.rename σ slots).set name (slot.rename σ) = Slots.rename σ (slots.set name slot) := by
  induction slots with
  | nil => rfl
  | cons a rest ih =>
      obtain ⟨n, old⟩ := a
      simp only [Slots.rename, List.map_cons, Slots.set] at ih ⊢
      split
      · rfl
      · rw [ih]
        rfl

/-! ## The likeness -/

namespace Placement

variable {p p' : Program} {start : State} (π : Placement p p' start)

/-- **Runs in other places are alike**, whatever is in use there that was there at the start. -/
def likeness (kept : List Ref) (kept_early : ∀ x ∈ kept, x.index < start.heap.size) :
    Likeness p where
  place := π.place
  alike s s' := π.Alike s s'
  kept := []
  kept' := kept
  silent := false
  kind alike _ exist := alike.kind _ exist
  exist alike exist := alike.exist_iff.mpr exist
  later _ late := π.le_place late
  vertex alike exist exist' := alike.vertex exist exist'
  global? name alike := alike.global? name
  isAlive {s s' held r} alike fits _ ordinary := by
    rw [List.append_nil]
    exact alike.isAlive fits kept_early ordinary
  term? alike fits exist := by
    refine Heap.term?_rename alike.kind_eq ?_ _
    have size := alike.size
    have start := π.size
    omega
  alloc k alike :=
    ⟨(π.place_size alike.base alike.size).symm, alike.add .next .next fun _ _ => rfl⟩
  allocData {s s'} v alike := by
    refine ⟨(π.place_size alike.base alike.size).symm, ?_⟩
    refine alike.add (Registry.hands_best _ v) ?_ nofun
    have hands := s'.registry.hands_best (v.rename π.place)
    rwa [Value.key?_rename] at hands
  setSlot name slot alike ordinary := by
    refine alike.update ordinary (fun k => ?_) (alike.numbered.setSlot _ _ _)
      (alike.numbered'.setSlot _ _ _)
    cases k with
    | table t => simp only [Kind.rename, Table.rename, Slots.set_rename]
    | _ => rfl
  setOwner owner alike ordinary := by
    refine alike.update ordinary (fun k => ?_) (alike.numbered.setOwner _ _)
      (alike.numbered'.setOwner _ _)
    cases k <;> rfl
  setResult result alike ordinary := by
    refine alike.update ordinary (fun k => ?_) (alike.numbered.setResult _ _)
      (alike.numbered'.setResult _ _)
    cases k <;> rfl
  trace line alike := { alike with
    numbered := alike.numbered.of_heap rfl rfl
    numbered' := alike.numbered'.of_heap rfl rfl }

/-- **When the runs begin, the state of the one has the prototypes of the other.** -/
theorem alike_start (numbered : start.Numbered) : π.Alike p.base start where
  base := Nat.le_refl _
  size := Nat.add_comm _ _
  kind r early := by
    obtain ⟨⟨form, home, owner, slots⟩, kind, rfl, rfl, empty⟩ := p.prototype π.checked early
    rw [π.prototypes r early, kind, Kind.rename, Table.rename, Slots.rename_of_shown empty]
    rfl
  earlier _ _ := rfl
  globals := rfl
  globals' := rfl
  numbered := p.numbered_base
  numbered' := numbered
  labels r key early := by
    obtain ⟨t, kind, -⟩ := p.prototype π.checked early
    have kind' : (start.heap.cell (π.place r)).kind = .table t := by
      rw [π.prototypes r early, kind]
    exact iff_of_false (numbered.table _ t (π.early r early) kind' key)
      (p.numbered_base.table r t early kind key)

/-- Where the one run begins, the other one is alike to it. -/
theorem at_start (numbered : start.Numbered) {frame : Frame}
    (exist : ∀ r ∈ frame.held, r.index < start.heap.size) :
    (π.likeness frame.held exist).At { frame with held := [] } frame p.base start where
  alike := π.alike_start numbered
  fits := p.fits_base π.checked
  depth := rfl
  tracing := (Bool.and_true _).symm
  held := ⟨[], nofun, rfl, rfl⟩

end Placement

end PhiCalculus
