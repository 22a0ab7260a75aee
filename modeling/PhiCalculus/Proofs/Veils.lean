import PhiCalculus.Proofs.Depths
import PhiCalculus.Proofs.Existence

/-!
# Veiled objects

Two states may have the same objects but for a few, of which only the outside is the same: their
vertex, their form and their home, and whether they are data.  A veil lies over these objects
(`Veil`, `State.Veils`).  Under it the objects hold no more in the first state than in the second
one, so what still exists in the first state also exists in the second one.  A home that exists only
in the second one clings to what is veiled (`State.Clings`).

Two evaluations that start in such states may go the same way (`Follows`): they end in the same
answer, or for the same reason, in states that again differ in the veiled objects only.  The terms
of objects are not the same, since they may show what is veiled.
-/

set_option autoImplicit false

namespace PhiCalculus

open PhiCalculus.Action

/-! ## What exists if more is held -/

namespace Heap

variable {h h' : Heap} {inUse inUse' waiting : List Ref} {gone : Finset Nat} {counts : Array Nat}
  {r : Ref}

/-- Where more is held and in use, no less is kept. -/
theorem Kept.mono (kept : h.Kept inUse r) (more : ∀ a b, h.Holds a b → h'.Holds a b)
    (used : ∀ a ∈ inUse, a ∈ inUse') : h'.Kept inUse' r := by
  obtain ⟨a, anchored, path⟩ := kept
  exact ⟨a, anchored.imp (used a) (Relation.TransGen.mono more a a),
    Relation.ReflTransGen.mono more a r path⟩

/-- While objects are withdrawn, what is kept has holds left. -/
theorem Tallied.ne_zero_of_kept (c : h.Tallied inUse gone waiting [] counts)
    (spared : ∀ i ∈ gone, ¬ h.Kept inUse ⟨i⟩) (kept : h.Kept inUse r) (exist : r.index < h.size) :
    counts.getD r.index 0 ≠ 0 := by
  rw [c.count r.index exist]
  intro none
  obtain ⟨unused, holders⟩ := holdsLeft_eq_zero_iff.mp (Nat.add_eq_zero_iff.mp none).1
  rcases kept.holder with used | ⟨x, kept', holds⟩
  · exact unused used
  · exact spared x.index (holders x holds) kept'

theorem withdraw_ne_zero (fuel : Nat) (c : h.Tallied inUse gone waiting [] counts)
    (spared : ∀ i ∈ gone, ¬ h.Kept inUse ⟨i⟩) (kept : h.Kept inUse r) (exist : r.index < h.size) :
    (h.withdraw fuel counts waiting).getD r.index 0 ≠ 0 := by
  induction fuel generalizing gone waiting counts with
  | zero => exact c.ne_zero_of_kept spared kept exist
  | succ fuel ih =>
      cases waiting with
      | nil => exact c.ne_zero_of_kept spared kept exist
      | cons x waiting =>
          obtain ⟨_, next, _⟩ := release_congr (fun _ => Iff.rfl) c.withdraw_one c.withdraw_one
          rw [withdraw]
          refine ih next fun i there kept' => ?_
          rw [Tallied.withdrawing] at there
          split at there
          · next exist' =>
            rcases Finset.mem_insert.mp there with rfl | there
            · exact c.ne_zero_of_kept spared kept' exist'
                (c.none x.index exist' (.inr List.mem_cons_self))
            · exact spared i there kept'
          · exact spared i there kept'

/-- What is kept exists, in any heap. -/
theorem survives_of_kept (kept : h.Kept inUse r) (exist : r.index < h.size) :
    h.survives inUse r = true := by
  rw [survives, decide_eq_true_iff, Nat.pos_iff_ne_zero]
  exact withdraw_ne_zero _ (h.tallied_holdCounts inUse) (fun _ there => absurd there
    (Finset.notMem_empty _)) kept exist

end Heap

/-- The home is a value, or it is there and not gone. -/
def State.Stands (s : State) (held : List Ref) (home : Ref) : Prop :=
  (s.heap.cell home).isData = true ∨ home.index < s.heap.size ∧ ¬ Moment.Gone ⟨s, held⟩ home

theorem State.Stands.home? {s : State} {held : List Ref} {r home : Ref}
    (stands : s.Stands held home)
    (homed : (s.heap.cell r).home? = some home) : s.home? held r = some home := by
  rw [State.home?, homed]
  rcases stands with isData | ⟨exist, kept⟩
  · simp [isData]
  · have kept' := not_not.mp (mt Heap.gone_iff_unreachable.mpr kept)
    have survives : s.heap.survives (s.globals.map (·.2) ++ held) home = true :=
      Heap.survives_of_kept kept' exist
    simp [State.isAlive, survives]

/-! ## States with veiled objects -/

/-- The objects look the same from the outside, and the first one refers to no more than the
second. -/
structure Cell.Veils (c c' : Cell) : Prop where
  vertex : c'.vertex = c.vertex
  form : c'.form = c.form
  isData : c'.isData = c.isData
  home? : c'.home? = c.home?
  refs : ∀ x ∈ c.refs, x ∈ c'.refs

theorem Cell.Veils.refl (c : Cell) : c.Veils c := ⟨rfl, rfl, rfl, rfl, fun _ => id⟩

/-- Some objects, what they are in one state and in another one, and what is in use in the other one
besides. -/
structure Veil where
  covers : Ref → Prop
  first : Ref → Cell
  second : Ref → Cell
  more : List Ref := []

instance : CoeFun Veil fun _ => Ref → Prop := ⟨Veil.covers⟩

/-- The states are the same but for the veiled objects, and for the terms in the trace.  A view that
has kept a veiled object is veiled as well. -/
structure State.Veils (veiled : Veil) (s s' : State) : Prop where
  size : s'.heap.size = s.heap.size
  same : ∀ r, ¬ veiled r → s'.heap.cell r = s.heap.cell r
  first : ∀ r, veiled r → s.heap.cell r = veiled.first r
  second : ∀ r, veiled r → s'.heap.cell r = veiled.second r
  outside : ∀ r, veiled r → (veiled.first r).Veils (veiled.second r)
  exist : ∀ r, veiled r → r.index < s.heap.size
  behind : ∀ r v x, (s.heap.cell r).kind = .view v (some x) → veiled x → veiled r
  registry : s'.registry = s.registry
  globals : s'.globals = s.globals
  counters : s'.counters = s.counters
  lines : s'.trace.map leadingDots = s.trace.map leadingDots

/-- The home of the object clings to what is veiled: it does not stand in the first state, but it is
found, if not there, then in the second one. -/
def State.Clings (veiled : Veil) (s : State) (held : List Ref) (r : Ref) : Prop :=
  ∃ home, (s.heap.cell r).home? = some home ∧ ¬ s.Stands held home ∧
    (s.home? held r ≠ none ∨ ∃ s' held', s.Veils veiled s' ∧
      (∀ x, x ∈ held' ↔ x ∈ held ∨ x ∈ veiled.more) ∧ s'.home? held' r ≠ none)

namespace State.Veils

variable {veiled : Veil} {s s' : State} (veils : s.Veils veiled s') {r home : Ref}
  {held held' : List Ref} {name : String}
include veils

theorem cell (r : Ref) : (s.heap.cell r).Veils (s'.heap.cell r) := by
  by_cases here : veiled r
  · rw [veils.first r here, veils.second r here]
    exact veils.outside r here
  · rw [veils.same r here]
    exact .refl _

theorem vertex (r : Ref) : s'.heap.vertex r = s.heap.vertex r := (veils.cell r).vertex

theorem subject (r : Ref) : s'.heap.subject r = s.heap.subject r := by
  rw [Heap.subject, Heap.subject, Cell.subject, Cell.subject, (veils.cell r).vertex,
    (veils.cell r).form]

theorem slot? (seen : ¬ veiled r) (name : String) : s'.heap.slot? r name = s.heap.slot? r name := by
  rw [Heap.slot?, Heap.slot?, veils.same r seen]

theorem global? (name : String) : s'.global? name = s.global? name := by
  rw [State.global?, State.global?, veils.globals]

theorem holds (r x : Ref) (holds : s.heap.Holds r x) : s'.heap.Holds r x := by
  rcases Heap.refs_or_home holds with there | ⟨homed, isData⟩
  · exact Heap.holds_of_refs ((veils.cell r).refs x there)
  · exact Heap.holds_of_home ((veils.cell r).home?.trans homed) ((veils.cell x).isData.trans isData)

/-- A home that stands in the first state also stands in the second one. -/
theorem stands (stands : s.Stands held home) (more : ∀ x ∈ held, x ∈ held') :
    s'.Stands held' home := by
  refine stands.imp (veils.cell home).isData.trans fun ⟨exist, still⟩ => ⟨veils.size ▸ exist, ?_⟩
  intro gone
  refine still (Heap.gone_iff_unreachable.mpr fun kept => ?_)
  refine Heap.gone_iff_unreachable.mp gone (kept.mono veils.holds fun x there => ?_)
  rw [Moment.mem_roots_iff] at there ⊢
  rw [veils.globals]
  exact there.imp id (more x)

/-- **A home that does not cling to what is veiled is the home in both states,** or in neither. -/
theorem home? (clear : ¬ s.Clings veiled held r)
    (more : ∀ x, x ∈ held' ↔ x ∈ held ∨ x ∈ veiled.more) : s'.home? held' r = s.home? held r := by
  cases homed : (s.heap.cell r).home? with
  | none => rw [State.home?, State.home?, (veils.cell r).home?, homed]
  | some home =>
      by_cases here : s.Stands held home
      · have here' := veils.stands here fun x there => (more x).mpr (.inl there)
        rw [here.home? homed, here'.home? ((veils.cell r).home?.trans homed)]
      · have first : s.home? held r = none := by_contra fun found =>
          clear ⟨home, homed, here, .inl found⟩
        have second : s'.home? held' r = none := by_contra fun found =>
          clear ⟨home, homed, here, .inr ⟨s', held', veils, more, found⟩⟩
        rw [first, second]

/-! ### Changes of both states -/

/-- Lines of the same depth are added to the traces. -/
theorem tell {line line' : String} (same : leadingDots line' = leadingDots line) :
    State.Veils veiled { s with trace := line :: s.trace } { s' with trace := line' :: s'.trace } :=
  { veils with lines := by rw [List.map_cons, List.map_cons, same, veils.lines] }

theorem count (name : String) : (s.count name).Veils veiled (s'.count name) :=
  { veils with
    counters := by rw [State.count, State.count, State.counter, State.counter, veils.counters] }

/-- Both states get the same new object, at the same place. -/
theorem push {c : Cell} (unresolved : ∀ v x, c.kind = .view v (some x) → ¬ veiled x)
    (registry : Registry) : (s'.heap.alloc c).1 = (s.heap.alloc c).1 ∧
    State.Veils veiled { s with heap := (s.heap.alloc c).2, registry := registry }
      { s' with heap := (s'.heap.alloc c).2, registry := registry } := by
  have place : (s'.heap.alloc c).1 = (s.heap.alloc c).1 := congrArg Ref.mk veils.size
  have old {r : Ref} (there : r.index < s.heap.size) :
      (s'.heap.alloc c).2.cell r = s'.heap.cell r ∧ (s.heap.alloc c).2.cell r = s.heap.cell r :=
    ⟨s'.heap.cell_alloc_of_lt c (veils.size ▸ there), s.heap.cell_alloc_of_lt c there⟩
  refine ⟨place, ?_, fun r seen => ?_, fun r here => ?_, fun r here => ?_, veils.outside,
    fun r here => ?_, fun r v x kind here => ?_, rfl, veils.globals, veils.counters, veils.lines⟩
  · rw [Heap.size_alloc, Heap.size_alloc, veils.size]
  · rcases s.heap.cell_alloc_cases c r with ⟨there, -⟩ | ⟨rfl, same⟩ | ⟨out, same⟩
    · rw [(old there).1, (old there).2, veils.same r seen]
    · rw [same, ← veils.size]
      exact s'.heap.cell_alloc_self c
    · rw [same]
      exact Heap.cell_of_ge _ (by rwa [Heap.size_alloc, veils.size, ← s.heap.size_alloc c])
  · rw [(old (veils.exist r here)).2, veils.first r here]
  · rw [(old (veils.exist r here)).1, veils.second r here]
  · rw [Heap.size_alloc]
    exact Nat.lt_succ_of_lt (veils.exist r here)
  · rcases s.heap.cell_alloc_cases c r with ⟨-, same⟩ | ⟨-, same⟩ | ⟨-, same⟩ <;>
      rw [same] at kind
    · exact veils.behind r v x kind here
    · exact absurd here (unresolved v x kind)
    · cases kind

theorem alloc {k : Kind} (unresolved : ∀ v x, k = .view v (some x) → ¬ veiled x) :
    (s'.alloc k).1 = (s.alloc k).1 ∧ (s.alloc k).2.Veils veiled (s'.alloc k).2 := by
  have pushed := veils.push (c := ⟨s.registry.next.1, k⟩) unresolved s.registry.next.2
  rw [State.alloc, State.alloc, veils.registry]
  exact pushed

theorem allocData (v : Value) : (s'.allocData v).1 = (s.allocData v).1 ∧
    (s.allocData v).2.Veils veiled (s'.allocData v).2 := by
  have pushed := veils.push (c := ⟨(s.registry.best v).1, .data v⟩) nofun (s.registry.best v).2
  rw [State.allocData, State.allocData, veils.registry]
  exact pushed

/-- An object that is not veiled changes in both states. -/
theorem update (seen : ¬ veiled r) {f : Kind → Kind}
    (keeps : ∀ k v x, f k = .view v (some x) → k = .view v (some x) ∨ ¬ veiled x) :
    State.Veils veiled { s with heap := s.heap.update r f }
      { s' with heap := s'.heap.update r f } := by
  have still (x : Ref) (other : x ≠ r) : (s'.heap.update r f).cell x = s'.heap.cell x ∧
      (s.heap.update r f).cell x = s.heap.cell x :=
    ⟨s'.heap.cell_update_of_ne other f, s.heap.cell_update_of_ne other f⟩
  have apart (x : Ref) (here : veiled x) : x ≠ r := fun is => seen (is ▸ here)
  refine ⟨?_, fun x seen' => ?_, fun x here => ?_, fun x here => ?_, veils.outside,
    fun x here => ?_, fun x v y kind here => ?_, veils.registry, veils.globals, veils.counters,
      veils.lines⟩
  · rw [Heap.size_update, Heap.size_update, veils.size]
  · by_cases self : x = r
    · subst self
      by_cases exist : x.index < s.heap.size
      · rw [s'.heap.cell_update_self (veils.size ▸ exist), s.heap.cell_update_self exist,
          veils.same x seen']
      · have out : ¬ x.index < (s.heap.update x f).size := by rwa [Heap.size_update]
        have out' : ¬ x.index < (s'.heap.update x f).size := by rwa [Heap.size_update, veils.size]
        rw [Heap.cell_of_ge _ out, Heap.cell_of_ge _ out']
    · rw [(still x self).1, (still x self).2, veils.same x seen']
  · rw [(still x (apart x here)).2, veils.first x here]
  · rw [(still x (apart x here)).1, veils.second x here]
  · rw [Heap.size_update]
    exact veils.exist x here
  · by_cases self : x = r
    · subst self
      by_cases exist : x.index < s.heap.size
      · rw [s.heap.cell_update_self exist] at kind
        exact veils.behind x v y ((keeps _ v y kind).resolve_right (not_not_intro here)) here
      · have out : ¬ x.index < (s.heap.update x f).size := by rwa [Heap.size_update]
        rw [Heap.cell_of_ge _ out] at kind
        cases kind
    · rw [(still x self).2] at kind
      exact veils.behind x v y kind here

theorem setSlot (seen : ¬ veiled r) (name : String) (slot : Slot) :
    State.Veils veiled { s with heap := s.heap.setSlot r name slot }
      { s' with heap := s'.heap.setSlot r name slot } := by
  refine veils.update seen fun k v x kind => .inl ?_
  cases k with
  | table t => cases kind
  | _ => exact kind

theorem setOwner (seen : ¬ veiled r) (owner : Ref) :
    State.Veils veiled { s with heap := s.heap.setOwner r owner }
      { s' with heap := s'.heap.setOwner r owner } := by
  refine veils.update seen fun k v x kind => .inl ?_
  cases k with
  | table t => cases kind
  | _ => exact kind

theorem setResult (seen : ¬ veiled r) {result : Ref} (seen' : ¬ veiled result) :
    State.Veils veiled { s with heap := s.heap.setResult r result }
      { s' with heap := s'.heap.setResult r result } := by
  refine veils.update seen fun k v x kind => ?_
  cases k with
  | view w kept =>
      cases kind
      exact .inr seen'
  | _ => exact .inl kind

end State.Veils

/-! ## Outcomes -/

/-- The failures are the same but for terms. -/
inductive Failure.Like : Failure → Failure → Prop where
  | same (f : Failure) : Like f f
  | during {f f' : Failure} (term term' : String) : Like f f' →
      Like (.during term f) (.during term' f')

/-- Two evaluations are in states that differ in the veiled objects only, and no less is in use in
the second one. -/
structure Abreast (veiled : Veil) (frame frame' : Frame) (s s' : State) : Prop where
  states : s.Veils veiled s'
  depth : frame'.depth = frame.depth
  tracing : frame'.tracing = frame.tracing
  held : ∀ r, r ∈ frame'.held ↔ r ∈ frame.held ∨ r ∈ veiled.more

/-- The second evaluation has gone the same way as the first one: both have given the same answer,
of which something holds, or have failed alike, or have been cut short.  Either is lost if it has
been cut short with nothing left. -/
inductive Follows (veiled : Veil) {α : Type} (post : α → Prop) : Outcome α → Outcome α → Prop where
  | answer {a : α} {t t' : State} : t.Veils veiled t' → post a →
      Follows veiled post (.answer a t) (.answer a t')
  | failure {f f' : Failure} {t t' : State} : t.Veils veiled t' → f.Like f' →
      (∀ x ∈ f.refs, ¬ veiled x) → Follows veiled post (.failure f t) (.failure f' t')
  | unfinished {t t' : State} :
      Follows veiled post (@Outcome.unfinished α t) (@Outcome.unfinished α t')
  | lost {t : State} {o' : Outcome α} : t.heap.size = 0 →
      Follows veiled post (@Outcome.unfinished α t) o'
  | lost' {o : Outcome α} {t' : State} : t'.heap.size = 0 →
      Follows veiled post o (@Outcome.unfinished α t')

/-- The observations are of one answer, of which something holds, or of failures that are alike. -/
inductive Failure.Seen (veiled : Veil) {α : Type} (post : α → Prop) :
    Except Failure α → Except Failure α → Prop where
  | ok {a : α} : post a → Seen veiled post (.ok a) (.ok a)
  | error {f f' : Failure} : f.Like f' → (∀ x ∈ f.refs, ¬ veiled x) →
      Seen veiled post (.error f) (.error f')

theorem Failure.Like.plain {f f' : Failure} (like : f.Like f') :
    f'.isRaise = f.isRaise ∧ f'.isPlaced = f.isPlaced := by
  cases like <;> exact ⟨rfl, rfl⟩

/-- What is not placed is the same failure. -/
theorem Failure.Like.eq {f f' : Failure} (like : f.Like f') (unplaced : f.isPlaced = false) :
    f' = f := by
  cases like with
  | same => rfl
  | during => cases unplaced

section

variable {α β : Type} {veiled : Veil} {frame frame' : Frame} {s s' t t' : State}

theorem Follows.weaken {post post' : α → Prop} {o o' : Outcome α} (h : Follows veiled post o o')
    (weaker : ∀ a t, o = .answer a t → post a → post' a) : Follows veiled post' o o' := by
  cases h with
  | answer states holds => exact .answer states (weaker _ _ rfl holds)
  | failure states like plain => exact .failure states like plain
  | unfinished => exact .unfinished
  | lost h => exact .lost h
  | lost' h => exact .lost' h

namespace Abreast

variable (here : Abreast veiled frame frame' s s')
include here

theorem go (states : t.Veils veiled t') : Abreast veiled frame frame' t t' :=
  { here with states := states }

theorem holding (refs : List Ref) :
    Abreast veiled (frame.holding refs) (frame'.holding refs) s s' where
  states := here.states
  depth := here.depth
  tracing := here.tracing
  held r := by
    show r ∈ refs ++ frame'.held ↔ r ∈ refs ++ frame.held ∨ r ∈ veiled.more
    rw [List.mem_append, List.mem_append, here.held, or_assoc]

theorem deeper : Abreast veiled { frame with depth := frame.depth + 1 }
    { frame' with depth := frame'.depth + 1 } s s' :=
  ⟨here.states, congrArg (· + 1) here.depth, here.tracing, here.held⟩

theorem answer {post : α → Prop} {a : α} (holds : post a) :
    Follows veiled post (.answer a s) (.answer a s') :=
  .answer here.states holds

/-- A failure that carries no object. -/
theorem fails {post : α → Prop} {f : Failure} (plain : f.refs = []) :
    Follows veiled post (.failure f s) (.failure f s') :=
  .failure here.states (.same f) (by rw [plain]; exact nofun)

/-- What goes on alike after the same answer ends alike. -/
theorem bind {mid : α → Prop} {post : β → Prop} {x x' : Action α} {k k' : α → Action β}
    (first : Follows veiled mid (x frame s) (x' frame' s'))
    (rest : ∀ a {t t'}, Abreast veiled frame frame' t t' → mid a →
      Follows veiled post (k a frame t) (k' a frame' t')) :
    Follows veiled post ((x >>= k) frame s) ((x' >>= k') frame' s') := by
  rw [bind_apply, bind_apply]
  generalize x frame s = o at first ⊢
  generalize x' frame' s' = o' at first ⊢
  cases first with
  | answer states holds => exact rest _ (here.go states) holds
  | failure states like plain => exact .failure states like plain
  | unfinished => exact .unfinished
  | lost h => exact .lost h
  | lost' h => exact .lost' h

/-- What goes on alike after outcomes that are observed ends alike. -/
theorem recover {mid : α → Prop} {post : β → Prop} {x x' : Action α}
    {k k' : Except Failure α → Action β} (first : Follows veiled mid (x frame s) (x' frame' s'))
    (rest : ∀ {e e' t t'}, Abreast veiled frame frame' t t' → Failure.Seen veiled mid e e' →
      Follows veiled post (k e frame t) (k' e' frame' t')) :
    Follows veiled post ((observe x >>= k) frame s) ((observe x' >>= k') frame' s') := by
  rw [bind_apply, bind_apply, observe, observe]
  generalize x frame s = o at first ⊢
  generalize x' frame' s' = o' at first ⊢
  cases first with
  | answer states holds => exact rest (here.go states) (.ok holds)
  | failure states like plain => exact rest (here.go states) (.error like plain)
  | unfinished => exact .unfinished
  | lost h => exact .lost h
  | lost' h => exact .lost' h

omit here in
theorem ite {p : Prop} [Decidable p] {post : α → Prop} {x x' y y' : Action α}
    (yes : p → Follows veiled post (x frame s) (x' frame' s'))
    (no : ¬ p → Follows veiled post (y frame s) (y' frame' s')) :
    Follows veiled post ((if p then x else y) frame s) ((if p then x' else y') frame' s') := by
  by_cases h : p
  · rw [if_pos h, if_pos h]
    exact yes h
  · rw [if_neg h, if_neg h]
    exact no h

omit here in
/-- What is read is the same in both states. -/
theorem reads {post : β → Prop} {a : α} {x x' : Action α} {k k' : α → Action β}
    (first : x frame s = .answer a s) (second : x' frame' s' = .answer a s')
    (rest : Follows veiled post (k a frame s) (k' a frame' s')) :
    Follows veiled post ((x >>= k) frame s) ((x' >>= k') frame' s') := by
  rwa [bind_of_answer first, bind_of_answer second]

theorem cell {r : Ref} (seen : ¬ veiled r) {post : β → Prop} {k k' : Cell → Action β}
    (rest : Follows veiled post (k (s.heap.cell r) frame s) (k' (s.heap.cell r) frame' s')) :
    Follows veiled post ((Action.cell r >>= k) frame s) ((Action.cell r >>= k') frame' s') := by
  refine reads (cell_apply r frame s) ?_ rest
  rw [cell_apply, here.states.same r seen]

omit here in
theorem asks {f : State → α} (same : f s' = f s) {post : β → Prop} {k k' : α → Action β}
    (rest : Follows veiled post (k (f s) frame s) (k' (f s) frame' s')) :
    Follows veiled post ((Action.asks f >>= k) frame s) ((Action.asks f >>= k') frame' s') :=
  reads (asks_apply f frame s) ((asks_apply f frame' s').trans (by rw [same])) rest

/-- A failure that shows an object. -/
theorem failsAbout {r : Ref} {post : α → Prop} {f : Subject → Failure}
    (plain : ∀ o, (f o).refs = []) :
    Follows veiled post ((subject r >>= fun o => (fail (f o) : Action α)) frame s)
      ((subject r >>= fun o => (fail (f o) : Action α)) frame' s') :=
  asks (here.states.subject r) (here.fails (plain _))

theorem conclude {post : α → Prop} {e e' : Except Failure α}
    (seen : Failure.Seen veiled post e e') :
    Follows veiled post (conclude e frame s) (conclude e' frame' s') := by
  cases seen with
  | ok holds => exact here.answer holds
  | error like plain => exact .failure here.states like plain

/-! ### New objects -/

theorem alloc {k : Kind} (unresolved : ∀ v x, k ≠ .view v (some x)) :
    Follows veiled (¬ veiled ·) (Action.alloc k frame s) (Action.alloc k frame' s') := by
  obtain ⟨place, states⟩ := here.states.alloc (k := k) fun v x is => absurd is (unresolved v x)
  show Follows veiled _ (.answer (s.alloc k).1 (s.alloc k).2)
    (.answer (s'.alloc k).1 (s'.alloc k).2)
  rw [place]
  refine .answer states fun veiled' => ?_
  exact absurd (here.states.exist _ veiled') (Nat.lt_irrefl _)

theorem view (v : View) :
    Follows veiled (¬ veiled ·) (Action.view v frame s) (Action.view v frame' s') :=
  here.alloc nofun

theorem data (v : Value) :
    Follows veiled (¬ veiled ·) (Action.data v frame s) (Action.data v frame' s') := by
  obtain ⟨place, states⟩ := here.states.allocData v
  show Follows veiled _ (.answer (s.allocData v).1 (s.allocData v).2)
    (.answer (s'.allocData v).1 (s'.allocData v).2)
  rw [place]
  refine .answer states fun veiled' => ?_
  exact absurd (here.states.exist _ veiled') (Nat.lt_irrefl _)

end Abreast

end

end PhiCalculus
