import PhiCalculus.Proofs.Concrete
import PhiCalculus.Proofs.Rendering
import PhiCalculus.Proofs.Roles

/-!
# The states of a run

A state belongs to a run of a checked program if the prototypes and the global objects are as they
were at the start, and every object fits: a table plays a role, and what slots, owners, arrays and
views refer to are ordinary objects (`State.Fits`).  Only a view that copies may refer to a
prototype, and the result of a view is no view.

The state in which a program begins is of this kind (`Program.fits_base`).  It stays so when an
object is added that fits, and when an ordinary object gains ordinary content.
-/

set_option autoImplicit false

namespace PhiCalculus

/-! ## Objects that fit -/

/-- What a view refers to: ordinary objects, or the prototype that it copies. -/
def View.Fits (p : Program) (h : Heap) : View → Prop
  | .copy base => base.index < h.size
  | v => ∀ r ∈ v.refs, h.Ordinary p r

theorem View.Fits.grows {p : Program} {h h' : Heap} {v : View} (fits : v.Fits p h)
    (grown : h.Grows h') : v.Fits p h' := by
  cases v with
  | copy base => exact Nat.lt_of_lt_of_le fits grown.size
  | _ => exact fun r there => (fits r there).grows grown

/-- The object fits into a run of the program. -/
inductive Heap.FitsAt (p : Program) (h : Heap) (r : Ref) : Prop where
  | table {t : Table} {role : Role} : (h.cell r).kind = .table t → h.Plays p role r →
      (∀ owner, t.owner = some owner → h.Ordinary p owner) →
        (∀ name s, (name, s) ∈ t.slots → ∀ x ∈ s.shown, h.Ordinary p x) → FitsAt p h r
  | data {v : Value} : (h.cell r).kind = .data v → p.base.heap.size ≤ r.index →
      (∀ x ∈ v.items, h.Ordinary p x) → FitsAt p h r
  | view {v : View} {result : Option Ref} : (h.cell r).kind = .view v result →
      p.base.heap.size ≤ r.index → v.Fits p h →
        (∀ x, result = some x → h.Ordinary p x ∧ (h.cell x).isView = false) → FitsAt p h r

/-- An object that does not change keeps fitting. -/
theorem Heap.FitsAt.grows {p : Program} {h h' : Heap} {r : Ref} (fits : h.FitsAt p r)
    (exist : r.index < h.size) (grown : h.Grows h') (same : h'.cell r = h.cell r) :
    h'.FitsAt p r := by
  cases fits with
  | table kind plays owner contents =>
      refine .table (by rw [same, kind]) (plays.grows exist grown) ?_ ?_
      · exact fun o owned => (owner o owned).grows grown
      · exact fun name s there x shown => (contents name s there x shown).grows grown
  | data kind late items =>
      exact .data (by rw [same, kind]) late fun x there => (items x there).grows grown
  | view kind late base result =>
      refine .view (by rw [same, kind]) late (base.grows grown) fun x is => ?_
      obtain ⟨ordinary, concrete⟩ := result x is
      exact ⟨ordinary.grows grown, (grown.cell x ordinary.exist).isView.trans concrete⟩

/-- The state belongs to a run of the program, which is a checked one. -/
structure State.Fits (p : Program) (s : State) : Prop where
  checked : p.check = .ok ()
  size : p.base.heap.size ≤ s.heap.size
  prototypes : ∀ r : Ref, r.index < p.base.heap.size → s.heap.cell r = p.base.heap.cell r
  globals : s.globals = p.base.globals
  objects : ∀ r : Ref, r.index < s.heap.size → s.heap.FitsAt p r

namespace State.Fits

variable {p : Program} {s t : State} {r : Ref}

/-- A state stays in the run if no prototype changes and everything that is new or has changed
fits. -/
theorem of_grows (fits : s.Fits p) (grown : s.heap.Grows t.heap) (globals : t.globals = s.globals)
    (objects : ∀ r : Ref, r.index < t.heap.size →
      (r.index < s.heap.size ∧ t.heap.cell r = s.heap.cell r) ∨
        p.base.heap.size ≤ r.index ∧ t.heap.FitsAt p r) : t.Fits p where
  checked := fits.checked
  size := Nat.le_trans fits.size grown.size
  globals := globals.trans fits.globals
  prototypes r early := by
    have exist := Nat.lt_of_lt_of_le early (Nat.le_trans fits.size grown.size)
    rcases objects r exist with ⟨-, same⟩ | ⟨late, -⟩
    · exact same.trans (fits.prototypes r early)
    · omega
  objects r exist := by
    rcases objects r exist with ⟨old, same⟩ | ⟨-, fitting⟩
    · exact (fits.objects r old).grows old grown same
    · exact fitting

/-- What only an observer sees does not matter. -/
theorem of_heap (fits : s.Fits p) (heap : t.heap = s.heap) (globals : t.globals = s.globals) :
    t.Fits p :=
  fits.of_grows (by rw [heap]; exact Heap.Grows.refl _) globals fun r exist =>
    .inl (by rw [heap] at exist ⊢; exact ⟨exist, rfl⟩)

/-! ## New objects -/

/-- A state stays in the run if one object is added and fits. -/
theorem of_alloc (fits : s.Fits p) {c : Cell} (heap : t.heap = (s.heap.alloc c).2)
    (globals : t.globals = s.globals) (new : t.heap.FitsAt p ⟨s.heap.size⟩) : t.Fits p := by
  refine fits.of_grows (heap ▸ s.heap.grows_alloc c) globals fun r exist => ?_
  rw [heap] at exist
  rcases s.heap.lt_size_alloc.mp exist with old | rfl
  · exact .inl ⟨old, by rw [heap, s.heap.cell_alloc_of_lt c old]⟩
  · exact .inr ⟨fits.size, new⟩

theorem ordinary_alloc (fits : s.Fits p) {c : Cell} {h : Heap} (heap : h = (s.heap.alloc c).2) :
    h.Ordinary p ⟨s.heap.size⟩ :=
  ⟨fits.size, heap ▸ s.heap.lt_size_alloc.mpr (.inr rfl)⟩

end State.Fits

theorem State.kind_alloc (s : State) (k : Kind) :
    ((s.alloc k).2.heap.cell ⟨s.heap.size⟩).kind = k :=
  congrArg Cell.kind (s.heap.cell_alloc_self ⟨s.registry.next.1, k⟩)

theorem State.kind_allocData (s : State) (v : Value) :
    ((s.allocData v).2.heap.cell ⟨s.heap.size⟩).kind = .data v :=
  congrArg Cell.kind (s.heap.cell_alloc_self ⟨(s.registry.best v).1, .data v⟩)

theorem State.grows_alloc (s : State) (k : Kind) : s.heap.Grows (s.alloc k).2.heap :=
  s.heap.grows_alloc _

theorem State.grows_allocData (s : State) (v : Value) : s.heap.Grows (s.allocData v).2.heap :=
  s.heap.grows_alloc _

namespace State.Fits

variable {p : Program} {s t : State} {r : Ref}

theorem allocData (fits : s.Fits p) {v : Value} (items : ∀ x ∈ v.items, s.heap.Ordinary p x) :
    (s.allocData v).2.Fits p := by
  refine fits.of_alloc rfl rfl (.data (s.kind_allocData v) fits.size fun x there => ?_)
  exact (items x there).grows (s.grows_allocData v)

theorem allocView (fits : s.Fits p) {v : View} (base : v.Fits p s.heap) :
    (s.alloc (.view v none)).2.Fits p := by
  refine fits.of_alloc rfl rfl (.view (s.kind_alloc _) fits.size (base.grows (s.grows_alloc _)) ?_)
  intro x is
  cases is

/-- A new table without an owner. -/
theorem allocTable (fits : s.Fits p) {t : Table} (role : Role)
    (plays : (s.alloc (.table t)).2.heap.Plays p role ⟨s.heap.size⟩) (free : t.owner = none)
    (contents : ∀ name slot, (name, slot) ∈ t.slots → ∀ x ∈ slot.shown, s.heap.Ordinary p x) :
    (s.alloc (.table t)).2.Fits p := by
  refine fits.of_alloc rfl rfl (.table (s.kind_alloc _) plays ?_ ?_)
  · intro owner owned
    rw [free] at owned
    cases owned
  · exact fun name slot there x shown =>
      (contents name slot there x shown).grows (s.grows_alloc _)

/-! ## What objects refer to -/

theorem contents (fits : s.Fits p) (exist : r.index < s.heap.size) {t : Table}
    (kind : (s.heap.cell r).kind = .table t) {name : String} {slot : Slot}
    (there : (name, slot) ∈ t.slots) {x : Ref} (shown : x ∈ slot.shown) :
    s.heap.Ordinary p x := by
  cases fits.objects r exist with
  | table kind' _ _ contents =>
      cases kind.symm.trans kind'
      exact contents name slot there x shown
  | data kind' => cases kind.symm.trans kind'
  | view kind' => cases kind.symm.trans kind'

theorem ordinary_of_slot (fits : s.Fits p) {name : String} {slot : Slot}
    (found : s.heap.slot? r name = some slot) {x : Ref} (shown : x ∈ slot.shown) :
    s.heap.Ordinary p x := by
  have exist := Heap.lt_size_of_slot? found
  obtain ⟨t, kind, declared⟩ := table_of_slot? found
  exact fits.contents exist kind (Slots.mem_of_find? declared) shown

theorem ordinary_of_owner (fits : s.Fits p) {owner : Ref}
    (owned : (s.heap.cell r).owner? = some owner) : s.heap.Ordinary p owner := by
  have exist : r.index < s.heap.size := by
    by_contra out
    rw [s.heap.cell_of_ge out] at owned
    cases owned
  rw [Cell.owner?] at owned
  cases fits.objects r exist with
  | table kind _ owners => rw [kind] at owned; exact owners owner owned
  | data kind => rw [kind] at owned; cases owned
  | view kind => rw [kind] at owned; cases owned

theorem ordinary_of_items (fits : s.Fits p) {v : Value} (kind : (s.heap.cell r).kind = .data v)
    {x : Ref} (there : x ∈ v.items) : s.heap.Ordinary p x := by
  have exist : r.index < s.heap.size :=
    Heap.lt_size_of_isData (by simp [Cell.isData, Cell.value?, kind])
  cases fits.objects r exist with
  | table kind' => cases kind.symm.trans kind'
  | data kind' _ items =>
      cases kind.symm.trans kind'
      exact items x there
  | view kind' => cases kind.symm.trans kind'

theorem view (fits : s.Fits p) {v : View} {result : Option Ref}
    (kind : (s.heap.cell r).kind = .view v result) :
    v.Fits p s.heap ∧
      ∀ x, result = some x → s.heap.Ordinary p x ∧ (s.heap.cell x).isView = false := by
  cases fits.objects r (Heap.lt_size_of_view kind) with
  | table kind' => cases kind.symm.trans kind'
  | data kind' => cases kind.symm.trans kind'
  | view kind' _ base results =>
      cases kind.symm.trans kind'
      exact ⟨base, results⟩

/-- Values and views are no prototypes. -/
theorem ordinary (fits : s.Fits p) (exist : r.index < s.heap.size)
    (other : ∀ t, (s.heap.cell r).kind ≠ .table t) : s.heap.Ordinary p r := by
  refine ⟨?_, exist⟩
  cases fits.objects r exist with
  | table kind => exact absurd kind (other _)
  | data _ late => exact late
  | view _ late => exact late

theorem plays (fits : s.Fits p) (exist : r.index < s.heap.size) {t : Table}
    (kind : (s.heap.cell r).kind = .table t) : ∃ role, s.heap.Plays p role r := by
  cases fits.objects r exist with
  | table _ plays => exact ⟨_, plays⟩
  | data kind' => cases kind.symm.trans kind'
  | view kind' => cases kind.symm.trans kind'

theorem plays_of_slot (fits : s.Fits p) {name : String} {slot : Slot}
    (found : s.heap.slot? r name = some slot) :
    ∃ role e, s.heap.Plays p role r ∧ (name, e) ∈ role.declared ∧ slot.Of e := by
  obtain ⟨t, kind, there⟩ := table_of_slot? found
  obtain ⟨role, plays⟩ := fits.plays (Heap.lt_size_of_slot? found) kind
  obtain ⟨home, t', kind', -, slots⟩ := plays.made
  cases kind.symm.trans kind'
  obtain ⟨e, declared, made⟩ := slots.sound name slot (Slots.mem_of_find? there)
  exact ⟨role, e, plays, declared, made⟩

theorem ordinary_of_home (fits : s.Fits p) {home : Ref}
    (homed : (s.heap.cell r).home? = some home) : s.heap.Ordinary p home := by
  have exist : r.index < s.heap.size := by
    by_contra out
    rw [s.heap.cell_of_ge out] at homed
    cases homed
  cases kind : (s.heap.cell r).kind with
  | table t =>
      obtain ⟨role, plays⟩ := fits.plays exist kind
      exact plays.home homed
  | data v => rw [Cell.home?, kind] at homed; cases homed
  | view v result => rw [Cell.home?, kind] at homed; cases homed

end State.Fits

/-- A home that still exists is the home. -/
theorem State.home?_eq {s : State} {held : List Ref} {r home : Ref}
    (found : s.home? held r = some home) : (s.heap.cell r).home? = some home := by
  rw [State.home?] at found
  split at found
  · cases found
  · next homed =>
    split at found
    · exact homed.trans found
    · cases found

/-- The object around another that declares a name is an ordinary one. -/
theorem State.Fits.ordinary_of_enclosing {p : Program} {s : State} (fits : s.Fits p)
    {held : List Ref} {name : String} {fuel : Nat} {r outer : Ref}
    (around : s.enclosing? held name fuel r = some outer) : s.heap.Ordinary p outer := by
  induction fuel generalizing r with
  | zero => cases around
  | succ fuel ih =>
      rw [State.enclosing?] at around
      cases found : s.home? (r :: held) r with
      | none => simp [found] at around
      | some home =>
          simp only [found] at around
          split at around
          · cases around
            exact fits.ordinary_of_home (State.home?_eq found)
          · exact ih around

/-- Every slot of an object that plays a role has a name that is not reserved. -/
theorem Heap.Plays.unreserved {p : Program} {h : Heap} {role : Role} {r : Ref}
    (plays : h.Plays p role r) (checked : p.check = .ok ()) {name : String} {e : SlotExpr}
    (declared : (name, e) ∈ role.declared) : name ∉ reserved := by
  cases plays with
  | top _ scopes => exact (scopes.written checked).plain.unreserved name e declared
  | inner _ scopes => exact (scopes.written checked).plain.unreserved name e declared
  | attempt => exact (Role.declared_native rfl declared).1
  | signal => exact (Role.declared_native rfl declared).1
  | method => exact (Role.declared_native rfl declared).1

/-- What an object that plays a role computes refers to no object beforehand. -/
theorem Heap.Plays.refs {p : Program} {h : Heap} {role : Role} {r : Ref}
    (plays : h.Plays p role r) (checked : p.check = .ok ()) {name : String} {e : SlotExpr}
    (declared : (name, e) ∈ role.declared) : e.refs = [] := by
  have written {decl : Declared} {outer : List Declared} (scopes : p.Scopes (decl :: outer))
      (declared : (name, e) ∈ decl) : e.refs = [] := by
    have written := scopes.written checked
    exact written.plain.refs (fun n origin there => (written.computed n origin there).refs) declared
  have native {n : Native} (slot : e = .free ∨ e = .composite (.native n)) : e.refs = [] := by
    rcases slot with rfl | rfl <;> rfl
  cases plays with
  | top _ scopes => exact written scopes declared
  | inner _ scopes => exact written scopes declared
  | attempt => exact native (Role.declared_native rfl declared).2
  | signal => exact native (Role.declared_native rfl declared).2
  | method => exact native (Role.declared_native rfl declared).2

namespace State.Fits

variable {p : Program} {s t : State} {r : Ref}

theorem unreserved (fits : s.Fits p) {name : String} {slot : Slot}
    (found : s.heap.slot? r name = some slot) : name ∉ reserved := by
  obtain ⟨role, e, plays, declared, -⟩ := fits.plays_of_slot found
  exact plays.unreserved fits.checked declared

/-- What a slot computes belongs to the role of its object. -/
theorem computes (fits : s.Fits p) {name : String} {slot : Slot} {origin : Expr}
    (found : s.heap.slot? r name = some slot)
    (computed : (∃ cache, slot = .once origin cache) ∨ slot = .composite origin) :
    ∃ role, s.heap.Plays p role r ∧ role.Computes origin := by
  obtain ⟨role, e, plays, declared, made⟩ := fits.plays_of_slot found
  refine ⟨role, plays, name, origin, .whole, ?_⟩
  rcases computed with ⟨cache, rfl⟩ | rfl
  · cases made
    exact .inl declared
  · cases made
    exact .inr declared

/-! ## Changes -/

/-- A state stays in the run if an ordinary object gains content and fits. -/
theorem update (fits : s.Fits p) (ordinary : s.heap.Ordinary p r) {f : Kind → Kind}
    (grown : s.heap.Grows (s.heap.update r f)) (changed : (s.heap.update r f).FitsAt p r) :
    State.Fits p { s with heap := s.heap.update r f } := by
  refine fits.of_grows (t := { s with heap := s.heap.update r f }) grown rfl fun o exist => ?_
  rw [Heap.size_update] at exist
  by_cases same : o = r
  · subst same
    exact .inr ⟨ordinary.late, changed⟩
  · exact .inl ⟨exist, s.heap.cell_update_of_ne same f⟩

theorem setSlot (fits : s.Fits p) (ordinary : s.heap.Ordinary p r) {name : String}
    {slot slot' : Slot} (found : s.heap.slot? r name = some slot) (grown : slot.Grows slot')
    (contents : ∀ x ∈ slot'.shown, s.heap.Ordinary p x) :
    State.Fits p { s with heap := s.heap.setSlot r name slot' } := by
  have grows := s.heap.grows_setSlot found grown
  refine fits.update ordinary grows ?_
  obtain ⟨t, kind, -⟩ := table_of_slot? found
  obtain ⟨role, plays⟩ := fits.plays ordinary.exist kind
  refine .table (t := { t with slots := t.slots.set name slot' }) ?_
    (plays.grows ordinary.exist grows) ?_ ?_
  · rw [s.heap.cell_update_self ordinary.exist, kind]
  · intro owner owned
    have owned : (s.heap.cell r).owner? = some owner := by rw [Cell.owner?, kind, ← owned]
    exact (fits.ordinary_of_owner owned).grows grows
  · intro n old there x shown
    rcases Slots.mem_set there with there | ⟨rfl, rfl⟩
    · exact (fits.contents ordinary.exist kind there shown).grows grows
    · exact (contents x shown).grows grows

theorem setOwner (fits : s.Fits p) (ordinary : s.heap.Ordinary p r) {t : Table}
    (kind : (s.heap.cell r).kind = .table t) (free : t.owner = none) {owner : Ref}
    (owns : s.heap.Ordinary p owner) :
    State.Fits p { s with heap := s.heap.setOwner r owner } := by
  have grows : s.heap.Grows (s.heap.setOwner r owner) :=
    s.heap.grows_setOwner (by simp only [Cell.owner?, kind, free])
  refine fits.update ordinary grows ?_
  obtain ⟨role, plays⟩ := fits.plays ordinary.exist kind
  refine .table (t := { t with owner := some owner }) ?_ (plays.grows ordinary.exist grows) ?_ ?_
  · rw [s.heap.cell_update_self ordinary.exist, kind]
  · intro o owned
    cases owned
    exact owns.grows grows
  · exact fun n old there x shown => (fits.contents ordinary.exist kind there shown).grows grows

theorem setResult (fits : s.Fits p) (ordinary : s.heap.Ordinary p r) {v : View}
    (kind : (s.heap.cell r).kind = .view v none) {result : Ref}
    (results : s.heap.Ordinary p result) (concrete : (s.heap.cell result).isView = false) :
    State.Fits p { s with heap := s.heap.setResult r result } := by
  have grows : s.heap.Grows (s.heap.setResult r result) :=
    s.heap.grows_setResult (by simp [kind])
  have kept : ((s.heap.setResult r result).cell r).kind = .view v (some result) := by
    rw [Heap.setResult, s.heap.cell_update_self ordinary.exist, kind]
  refine fits.update ordinary grows (.view kept ordinary.late ?_ ?_)
  · exact (fits.view kind).1.grows grows
  · intro x is
    cases is
    exact ⟨results.grows grows, (grows.cell result results.exist).isView.trans concrete⟩

end State.Fits

/-! ## The state in which a program begins -/

theorem Slots.Of.declareAll {slots : Slots} {made decl : Declared} (h : slots.Of made)
    (plain : decl.Plain) : (PhiCalculus.declareAll slots decl).Of (made ++ decl) := by
  induction decl generalizing slots made with
  | nil =>
      rw [List.append_nil]
      exact h
  | cons a rest ih =>
      obtain ⟨name, e⟩ := a
      have later : Declared.Plain rest :=
        ⟨fun n s there => plain.unreserved n s (List.mem_cons_of_mem _ there),
          fun n s there => plain.kinds n s (List.mem_cons_of_mem _ there)⟩
      rw [List.append_cons]
      rcases plain.kinds name e List.mem_cons_self with rfl | rfl | ⟨origin, rfl⟩
      · exact ih (h.declare (.free none)) later
      · exact ih (h.declare (.vararg [])) later
      · exact ih (h.declare (.once origin none)) later

/-- Nothing is in the slots of an object for which nothing was evaluated yet. -/
theorem shown_declareAll {slots : Slots} {decl : Declared}
    (empty : ∀ name s, (name, s) ∈ slots → s.shown = []) :
    ∀ name s, (name, s) ∈ declareAll slots decl → s.shown = [] := by
  induction decl generalizing slots with
  | nil => exact empty
  | cons a rest ih =>
      obtain ⟨name, e⟩ := a
      have declared {slot : Slot} (nothing : slot.shown = []) :
          ∀ n s, (n, s) ∈ slots.declare name slot → s.shown = [] := by
        intro n s there
        rcases Slots.mem_declare there with there | ⟨-, rfl⟩
        · exact empty n s there
        · exact nothing
      cases e with
      | free => exact ih (declared rfl)
      | vararg => exact ih (declared rfl)
      | bound e => exact ih empty
      | once e => exact ih (declared rfl)
      | composite e => exact ih (declared rfl)

/-- A prototype that was just added fits. -/
theorem Heap.fitsAt_prototype {p : Program} {h : Heap} {v : Vertex} {t : Table} (role : Role)
    (plays : (h.alloc ⟨v, .table t⟩).2.Plays p role ⟨h.size⟩) (free : t.owner = none)
    (empty : ∀ name s, (name, s) ∈ t.slots → s.shown = [])
    (fits : ∀ r : Ref, r.index < h.size → h.FitsAt p r) :
    ∀ r : Ref, r.index < (h.alloc ⟨v, .table t⟩).2.size →
      (h.alloc ⟨v, .table t⟩).2.FitsAt p r := by
  intro r exist
  rcases h.lt_size_alloc.mp exist with old | rfl
  · exact (fits r old).grows old (h.grows_alloc _) (h.cell_alloc_of_lt _ old)
  · refine .table (t := t) (congrArg Cell.kind (h.cell_alloc_self _)) plays ?_ ?_
    · simp [free]
    · intro name s there x shown
      rw [empty name s there] at shown
      cases shown

/-- Before the objects of a program are installed there is the prototype of attempts. -/
theorem State.fitsAt_initial (p : Program) (r : Ref) (exist : r.index < State.initial.heap.size) :
    State.initial.heap.FitsAt p r := by
  refine Heap.fitsAt_prototype (h := {}) (v := ⟨1⟩) (t := attemptTable) .attempt ?_ rfl ?_
    (fun r none => absurd none (Nat.not_lt_zero _)) r exist
  · exact .attempt ⟨attemptTable, rfl, rfl, Role.declared_attempt⟩
  · intro name s there
    simp only [attemptTable, List.mem_cons, Prod.mk.injEq, List.not_mem_nil, or_false] at there
    rcases there with ⟨-, rfl⟩ | ⟨-, rfl⟩ | ⟨-, rfl⟩ | ⟨-, rfl⟩ <;> rfl

/-- The objects of a checked program are installed as prototypes that fit. -/
theorem Program.fitsAt_install {p : Program} (checked : p.check = .ok ()) {objects : List Node}
    (among : ∀ n ∈ objects, n ∈ p.objects) {s : State}
    (fits : ∀ r : Ref, r.index < s.heap.size → s.heap.FitsAt p r) :
    ∀ r : Ref, r.index < (objects.foldl State.installNode s).heap.size →
      (objects.foldl State.installNode s).heap.FitsAt p r := by
  induction objects generalizing s with
  | nil => exact fits
  | cons n rest ih =>
      have there := among n List.mem_cons_self
      obtain ⟨name, line, params, attrs, rfl, written⟩ := checked_objects checked n there
      refine ih (fun n later => among n (List.mem_cons_of_mem _ later)) ?_
      refine Heap.fitsAt_prototype (.abstraction [_])
        (.top ⟨_, congrArg Cell.kind (s.heap.cell_alloc_self _), rfl, ?_⟩ (.top there)) rfl ?_ fits
      · exact Slots.Of.nil.declareAll written.plain
      · exact shown_declareAll (by simp)

/-- **The state in which a checked program begins belongs to its runs.** -/
theorem Program.fits_base {p : Program} (checked : p.check = .ok ()) : p.base.Fits p where
  checked := checked
  size := Nat.le_refl _
  prototypes _ _ := rfl
  globals := rfl
  objects := p.fitsAt_install checked (fun _ there => there) (State.fitsAt_initial p)

/-- A prototype is a table that refers to nothing. -/
theorem Program.prototype {p : Program} (checked : p.check = .ok ()) {r : Ref}
    (early : r.index < p.base.heap.size) :
    ∃ t, (p.base.heap.cell r).kind = .table t ∧ t.home = none ∧ t.owner = none ∧
      ∀ name slot, (name, slot) ∈ t.slots → slot.shown = [] := by
  have fits := p.fits_base checked
  have nothing {x : Ref} (ordinary : p.base.heap.Ordinary p x) : False :=
    Nat.not_lt_of_le ordinary.late ordinary.exist
  cases fits.objects r early with
  | @table t role kind plays owner contents =>
      refine ⟨t, kind, ?_, ?_, fun name slot there => ?_⟩
      · refine Option.eq_none_iff_forall_ne_some.mpr fun home homed => ?_
        exact nothing (plays.home (by rw [Cell.home?, kind, ← homed]))
      · exact Option.eq_none_iff_forall_ne_some.mpr fun o owned => nothing (owner o owned)
      · exact List.eq_nil_iff_forall_not_mem.mpr fun x shown =>
          nothing (contents name slot there x shown)
  | data _ late => exact absurd early (Nat.not_lt_of_le late)
  | view _ late => exact absurd early (Nat.not_lt_of_le late)

/-! ## Global objects -/

theorem State.lookup_insertEntry {α : Type} (name n : String) (a : α)
    (entries : List (String × α)) : List.lookup n (insertEntry name a entries) =
      if n = name then some a else List.lookup n entries := by
  induction entries with
  | nil =>
      by_cases same : n = name
      · simp [insertEntry, same]
      · simp [insertEntry, List.lookup_cons, beq_false_of_ne same, same]
  | cons entry rest ih =>
      obtain ⟨m, old⟩ := entry
      simp only [insertEntry]
      by_cases here : m = name
      · subst here
        by_cases same : n = m
        · simp [same]
        · simp [List.lookup_cons, beq_false_of_ne same, same]
      · rw [if_neg (by simpa using here), List.lookup_cons, List.lookup_cons, ih]
        by_cases same : n = m
        · subst same
          simp [here]
        · simp [beq_false_of_ne same]

theorem State.global?_define (s : State) (name n : String) (r : Ref) :
    (s.define name r).global? n = if n = name then some r else s.global? n :=
  lookup_insertEntry name n r s.globals

theorem State.mem_insertEntry {α : Type} {name : String} {a : α} {entries : List (String × α)}
    {entry : String × α} (there : entry ∈ insertEntry name a entries) :
    entry ∈ entries ∨ entry = (name, a) := by
  induction entries with
  | nil => exact .inr (List.mem_singleton.mp there)
  | cons first rest ih =>
      obtain ⟨n, old⟩ := first
      simp only [insertEntry] at there
      split at there
      · next same =>
        rcases List.mem_cons.mp there with here | there
        · exact .inr (here.trans (congrArg (·, a) (beq_iff_eq.mp same)))
        · exact .inl (List.mem_cons_of_mem _ there)
      · rcases List.mem_cons.mp there with here | there
        · exact .inl (here ▸ List.mem_cons_self)
        · exact (ih there).imp (List.mem_cons_of_mem _) id

/-- A state whose global objects exist. -/
def State.Defined (s : State) : Prop := ∀ entry ∈ s.globals, entry.2.index < s.heap.size

theorem State.Defined.define {s : State} (defined : s.Defined) (name : String) {r : Ref}
    (exist : r.index < s.heap.size) : (s.define name r).Defined := by
  intro entry there
  rcases State.mem_insertEntry there with there | rfl
  · exact defined entry there
  · exact exist

theorem State.Defined.alloc {s : State} (defined : s.Defined) (k : Kind) :
    (s.alloc k).2.Defined :=
  fun entry there => Nat.lt_of_lt_of_le (defined entry there) (s.grows_alloc k).size

/-- Global objects exist. -/
theorem Program.defined_base (p : Program) : p.base.Defined := by
  have added {s : State} (defined : s.Defined) (name : String) (k : Kind) :
      ((s.alloc k).2.define name (s.alloc k).1).Defined := by
    refine (defined.alloc k).define name ?_
    exact Nat.lt_of_lt_of_eq (Nat.lt_succ_self _) (s.heap.size_alloc _).symm
  have node {s : State} (defined : s.Defined) (n : Node) : (s.installNode n).Defined := by
    unfold State.installNode
    split
    · exact added defined _ _
    · exact defined
  have initial : State.initial.Defined := added (s := {}) nofun "try" (.table attemptTable)
  suffices all : ∀ (objects : List Node) {s : State}, s.Defined →
      (objects.foldl State.installNode s).Defined from all p.objects initial
  intro objects
  induction objects with
  | nil => exact fun defined => defined
  | cons n rest ih => exact fun defined => ih (node defined n)

theorem State.Fits.exist_of_global {p : Program} {s : State} (fits : s.Fits p) {name : String}
    {r : Ref} (global : s.global? name = some r) : r.index < s.heap.size := by
  rw [State.global?, List.lookup_eq_some_iff, fits.globals] at global
  obtain ⟨before, after, entries, -⟩ := global
  have defined := p.defined_base (name, r) (by rw [entries]; simp)
  exact Nat.lt_of_lt_of_le defined fits.size

/-- What is global in a run was global when the program began. -/
theorem State.Fits.isSome_global? {p : Program} {s : State} (fits : s.Fits p) {name : String}
    {r : Ref} (global : s.global? name = some r) : (p.base.global? name).isSome = true := by
  rw [State.global?, ← fits.globals]
  exact Option.isSome_iff_exists.mpr ⟨r, global⟩

end PhiCalculus
