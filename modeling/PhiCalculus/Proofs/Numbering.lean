import PhiCalculus.Proofs.Monotone
import PhiCalculus.Proofs.Renaming
import PhiCalculus.Proofs.Roles
import PhiCalculus.Proofs.Vertices

/-!
# Which objects share a vertex

Every object gets its vertex when it is made, and the registry hands it out (`Registry.Hands`) for
the next ticket or for a label.  So a vertex without a label belongs to one object only, and objects
that share a vertex share its label (`State.Numbered`).

This holds when a program begins, and whatever an evaluation changes keeps it
(`State.Changes.numbered`), so it holds after any number of runs (`State.Numbered.dataizeGlobal`).
-/

set_option autoImplicit false

namespace PhiCalculus

theorem Value.key?_rename (σ : Ref → Ref) (v : Value) : (v.rename σ).key? = v.key? := by
  cases v <;> rfl

/-! ## States -/

/-- Changing an object leaves all vertices as they are. -/
theorem Heap.vertex_update (h : Heap) (r o : Ref) (f : Kind → Kind) :
    (h.update r f).vertex o = h.vertex o := by
  by_cases there : o.index < h.size
  · by_cases same : o = r
    · subst same
      rw [vertex, h.cell_update_self there]
      rfl
    · rw [vertex, h.cell_update_of_ne same]
      rfl
  · have there' : ¬ o.index < (h.update r f).size := by rwa [size_update]
    rw [vertex, vertex, cell_of_ge _ there, cell_of_ge _ there']

/-- Objects share a vertex only if it has a label, and tables share none. -/
structure State.Numbered (s : State) : Prop where
  registry : s.registry.Sound
  used : ∀ r : Ref, r.index < s.heap.size → (s.heap.vertex r).number ≤ s.registry.size
  alone : ∀ a b : Ref, a.index < s.heap.size → b.index < s.heap.size →
    s.heap.vertex a = s.heap.vertex b → a = b ∨ ∃ key, s.registry.Labels key (s.heap.vertex a)
  table : ∀ (r : Ref) (t : Table), r.index < s.heap.size → (s.heap.cell r).kind = .table t →
    ∀ key, ¬ s.registry.Labels key (s.heap.vertex r)

namespace State.Numbered

variable {s t : State}

/-- Objects have one vertex if they are one object or if their vertices have the same label. -/
theorem vertex_iff (n : s.Numbered) {a b : Ref} (exist : a.index < s.heap.size)
    (exist' : b.index < s.heap.size) : s.heap.vertex a = s.heap.vertex b ↔
      a = b ∨ ∃ key, s.registry.Labels key (s.heap.vertex a) ∧
        s.registry.Labels key (s.heap.vertex b) := by
  constructor
  · intro same
    refine (n.alone a b exist exist' same).imp id fun ⟨key, labels⟩ => ⟨key, labels, ?_⟩
    rwa [← same]
  · rintro (rfl | ⟨key, labels, labels'⟩)
    · rfl
    · exact Option.some.inj (labels.symm.trans labels')

/-- An object is added with a vertex that the registry hands out, without a label if it is a
table. -/
theorem add (n : s.Numbered) {key : Option (TypeTag × String)} {v : Vertex} {g : Registry}
    (hands : s.registry.Hands key v g) {k : Kind} (plain : ∀ t, k = .table t → key = none) :
    State.Numbered { s with heap := (s.heap.alloc ⟨v, k⟩).2, registry := g } := by
  have old {r : Ref} (there : r.index < s.heap.size) :
      (s.heap.alloc ⟨v, k⟩).2.cell r = s.heap.cell r := s.heap.cell_alloc_of_lt _ there
  have new : (s.heap.alloc ⟨v, k⟩).2.cell ⟨s.heap.size⟩ = ⟨v, k⟩ := s.heap.cell_alloc_self _
  have split {r : Ref} (there : r.index < (s.heap.alloc ⟨v, k⟩).2.size) :
      r.index < s.heap.size ∨ r = ⟨s.heap.size⟩ := s.heap.lt_size_alloc.mp there
  -- an older object has the new vertex only if that is not new but has a label
  have shared {r : Ref} (there : r.index < s.heap.size) (same : s.heap.vertex r = v) :
      ∃ key, s.registry.Labels key (s.heap.vertex r) := by
    rcases hands.fresh_or n.registry with fresh | ⟨key, -, labels⟩
    · have used := n.used r there
      rw [same, fresh] at used
      omega
    · exact ⟨key, same ▸ labels⟩
  have labels {r : Ref} (there : r.index < s.heap.size) {key : TypeTag × String} :
      g.Labels key (s.heap.vertex r) ↔ s.registry.Labels key (s.heap.vertex r) :=
    hands.labels_of_used n.registry (n.used r there)
  refine ⟨hands.sound n.registry, fun r there => ?_, fun a b there there' same => ?_,
    fun r t there kind key' known => ?_⟩
  · rcases split there with there | rfl
    · rw [Heap.vertex, old there]
      exact Nat.le_trans (n.used r there) (hands.size n.registry)
    · rw [Heap.vertex, new]
      exact (hands.used n.registry).2
  · simp only [Heap.vertex] at same ⊢
    rcases split there with there | rfl <;> rcases split there' with there' | rfl
    · rw [old there, old there'] at same
      rw [old there]
      exact (n.alone a b there there' same).imp id fun ⟨key, known⟩ =>
        ⟨key, (labels there).mpr known⟩
    · rw [old there, new] at same
      rw [old there]
      obtain ⟨key, known⟩ := shared there same
      exact .inr ⟨key, (labels there).mpr known⟩
    · rw [new, old there'] at same
      obtain ⟨key, known⟩ := shared there' same.symm
      rw [new, same]
      exact .inr ⟨key, (labels there').mpr known⟩
    · exact .inl rfl
  · rcases split there with there | rfl
    · simp only [Heap.vertex, old there] at kind known
      exact n.table r t there kind key' ((labels there).mp known)
    · simp only [Heap.vertex, new] at kind known
      have none := plain t kind
      rw [(hands.labels_iff n.registry).mp known] at none
      cases none

theorem alloc (n : s.Numbered) (k : Kind) : (s.alloc k).2.Numbered :=
  n.add .next fun _ _ => rfl

theorem allocData (n : s.Numbered) (v : Value) : (s.allocData v).2.Numbered :=
  n.add (s.registry.hands_best v) nofun

/-- Nothing is said about what is in a table. -/
theorem update (n : s.Numbered) (r : Ref) {f : Kind → Kind}
    (tables : ∀ k t, f k = .table t → ∃ t', k = .table t') :
    State.Numbered { s with heap := s.heap.update r f } := by
  refine ⟨n.registry, fun o there => ?_, fun a b there there' same => ?_,
    fun o t there kind key => ?_⟩
  · rw [Heap.size_update] at there
    rw [Heap.vertex_update]
    exact n.used o there
  · rw [Heap.size_update] at there there'
    rw [Heap.vertex_update, Heap.vertex_update] at same
    rw [Heap.vertex_update]
    exact n.alone a b there there' same
  · rw [Heap.size_update] at there
    rw [Heap.vertex_update]
    by_cases same : o = r
    · subst same
      rw [s.heap.cell_update_self there] at kind
      obtain ⟨t', kind⟩ := tables _ t kind
      exact n.table o t' there kind key
    · rw [s.heap.cell_update_of_ne same] at kind
      exact n.table o t there kind key

theorem setSlot (n : s.Numbered) (r : Ref) (name : String) (slot : Slot) :
    State.Numbered { s with heap := s.heap.setSlot r name slot } :=
  n.update r fun k _ is => by cases k <;> cases is; exact ⟨_, rfl⟩

theorem setOwner (n : s.Numbered) (r owner : Ref) :
    State.Numbered { s with heap := s.heap.setOwner r owner } :=
  n.update r fun k _ is => by cases k <;> cases is; exact ⟨_, rfl⟩

theorem setResult (n : s.Numbered) (r result : Ref) :
    State.Numbered { s with heap := s.heap.setResult r result } :=
  n.update r fun k _ is => by cases k <;> cases is; exact ⟨_, rfl⟩

/-- Only the objects and the registry matter. -/
theorem of_heap (n : s.Numbered) (heap : t.heap = s.heap) (registry : t.registry = s.registry) :
    t.Numbered := by
  obtain ⟨h, g, globals, counters, trace⟩ := t
  cases heap
  cases registry
  exact ⟨n.registry, n.used, n.alone, n.table⟩

end State.Numbered

/-! ## Runs -/

/-- **Whatever changes keeps vertices apart.** -/
theorem State.Changes.numbered ⦃s t : State⦄ (h : s.Changes t) (n : s.Numbered) : t.Numbered := by
  cases h with
  | fills h =>
      cases h with
      | creates h =>
          cases h with
          | observed heap registry => exact n.of_heap heap registry
          | alloc k => exact n.alloc k
          | data v => exact n.allocData v
      | cache computed => exact n.setSlot _ _ _
      | result derived => exact n.setResult _ _
  | write value => exact n.setSlot _ _ _
  | append items => exact n.setSlot _ _ _
  | own owner => exact n.setOwner _ _

theorem numbered_answerWithin (steps : Nat) :
    Answerer.Moves (fun s t => s.Numbered → t.Numbered) (answerWithin steps) := by
  induction steps with
  | zero => exact fun _ _ _ => id
  | succ steps ih =>
      intro α q
      have moves := ((changes_answerBy .ofExpressions q).mono State.Changes.numbered).moves
        (fun _ _ _ first second n => second (first n)) ih
      cases q <;> exact moves

/-- **A run keeps vertices apart.** -/
theorem State.Numbered.dataizeGlobal {s : State} (n : s.Numbered) (name : String) (frame : Frame) :
    (dataizeGlobal name frame s).state.Numbered := by
  have creates : Stepwise State.Creates True fun ask => globalValue ask name :=
    (straight_globalValue name).stepwise
  exact ((creates.mono State.Creates.changes).mono State.Changes.numbered).moves
    (fun _ _ _ first second n => second (first n)) (numbered_answerWithin stepLimit) frame s n

theorem State.Numbered.installNode {s : State} (n : s.Numbered) (node : Node) :
    (s.installNode node).Numbered := by
  unfold State.installNode
  split
  · exact (n.alloc _).of_heap rfl rfl
  · exact n

/-- When a program begins, vertices are apart. -/
theorem Program.numbered_base (p : Program) : p.base.Numbered := by
  have empty : State.Numbered {} := ⟨Registry.sound_empty, nofun, nofun, nofun⟩
  have initial : State.initial.Numbered := (empty.alloc _).of_heap rfl rfl
  suffices all : ∀ (objects : List Node) {s : State}, s.Numbered →
      (objects.foldl State.installNode s).Numbered from all p.objects initial
  intro objects
  induction objects with
  | nil => exact fun n => n
  | cons node rest ih => exact fun n => ih (n.installNode node)

end PhiCalculus
