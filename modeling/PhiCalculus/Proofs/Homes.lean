import PhiCalculus.Proofs.Histories
import PhiCalculus.Proofs.Identity

/-!
# Homes

An object refers to the scope that it was built in, its home, but does not keep it in existence,
unless the home is a value.  At any moment of any history the home of an object is given if it is a
value or can still be reached along strong references, and otherwise there is none.  A home that is
gone stays gone, and no other object takes its place (`Moment.homes_last_as_long_as_kept`).
-/

set_option autoImplicit false

namespace PhiCalculus

open PhiCalculus.Action

/-! ## Looking a home up -/

section

variable {frame : Frame} {s : State} {r home : Ref}

/-- What the home of an object shows: the home, or that it is gone. -/
theorem find_home (homed : (s.heap.cell r).home? = some home) (steps : Nat) :
    answerWithin (steps + 1) (.find r sigma) frame s =
      match s.home? (r :: frame.held) r with
      | some home => .answer (.fixed r sigma home) s
      | none => .failure (.homeGone (s.heap.subject r)) s := by
  cases kind : (s.heap.cell r).kind with
  | table t =>
      have place : findPlace (answerWithin steps) r sigma (frame.holding [r]) s =
          findHome r (frame.holding [r]) s := by
        rw [findPlace, bind_of_answer (cell_apply r _ s), kind]
        rfl
      refine place.trans ?_
      rw [findHome, bind_of_answer (frame_apply _ s), bind_of_answer (cell_apply r _ s), homed]
      dsimp only
      rw [bind_of_answer (asks_apply _ _ s)]
      show (match s.home? (r :: frame.held) r with
        | some home => (pure (Place.fixed r sigma home) : Action Place)
        | none => do fail (.homeGone (← subject r))) (frame.holding [r]) s = _
      cases s.home? (r :: frame.held) r <;> rfl
  | data v => simp [Cell.home?, kind] at homed
  | view v result => simp [Cell.home?, kind] at homed

/-- A copy has the home of what it is a copy of. -/
theorem home?_of_copyOf {steps : Nat} {c : Ref} {t : State}
    (copied : copyOf (answerWithin steps) r frame s = .answer c t) :
    ∃ o u, settle (answerWithin steps) r frame s = .answer o u ∧
      (t.heap.cell c).home? = (u.heap.cell o).home? := by
  obtain ⟨o, u, settled, copied⟩ := bind_eq_answer.mp copied
  refine ⟨o, u, settled, ?_⟩
  rw [hold_apply] at copied
  cases kind : (u.heap.cell o).kind with
  | table table =>
      cases (copyConcrete_table kind).symm.trans copied
      have made : (u.copyTable table).2.heap.cell (u.copyTable table).1 = _ :=
        u.heap.cell_alloc_self _
      rw [made, Cell.home?, Cell.home?, kind]
  | data v => cases (copyConcrete_data kind).symm.trans copied; rfl
  | view v result =>
      have concrete := (sound_answerWithin steps).settles.settle settled
      simp [Cell.isView, kind] at concrete

end

/-! ## Vertices -/

/-- Values are labelled, and nothing else has a vertex with a label. -/
structure State.Distinct (s : State) : Prop extends State.Labelled s where
  values : ∀ (r : Ref) (key : TypeTag × String), r.index < s.heap.size →
    s.registry.Labels key (s.heap.vertex r) →
      ∃ v, (s.heap.cell r).value? = some v ∧ v.key? = some key

namespace State.Distinct

variable {s t : State}

theorem add (n : s.Distinct) {key : Option (TypeTag × String)} {v : Vertex} {g : Registry}
    (hands : s.registry.Hands key v g) {k : Kind} (plain : key ≠ none → ∃ w, k = .data w ∧ w.key? = key)
    (labelled : State.Labelled { s with heap := (s.heap.alloc ⟨v, k⟩).2, registry := g }) :
    State.Distinct { s with heap := (s.heap.alloc ⟨v, k⟩).2, registry := g } := by
  refine ⟨labelled, fun r key' there known => ?_⟩
  rcases s.heap.lt_size_alloc.mp there with old | rfl
  · have same : (s.heap.alloc ⟨v, k⟩).2.cell r = s.heap.cell r := s.heap.cell_alloc_of_lt _ old
    simp only [Heap.vertex, same] at known ⊢
    exact n.values r key' old ((hands.labels_of_used n.registry (n.used r old)).mp known)
  · have same : (s.heap.alloc ⟨v, k⟩).2.cell ⟨s.heap.size⟩ = ⟨v, k⟩ := s.heap.cell_alloc_self _
    simp only [Heap.vertex, same] at known ⊢
    have key := (hands.labels_iff n.registry).mp known
    obtain ⟨w, rfl, labels⟩ := plain fun none => by cases none.symm.trans key
    exact ⟨w, rfl, labels.trans key⟩

/-- Nothing that exists becomes a value or ceases to be one. -/
theorem of_grown (n : s.Distinct) (grown : s.heap.Grows t.heap) (size : t.heap.size = s.heap.size)
    (registry : t.registry = s.registry) (labelled : t.Labelled) : t.Distinct := by
  refine ⟨labelled, fun r key there known => ?_⟩
  rw [size] at there
  rw [registry, grown.vertex there] at known
  rw [(grown.cell r there).value?]
  exact n.values r key there known

/-- The registry may hand out vertices for nothing. -/
theorem asks (n : s.Distinct) (q : Registry.Query) :
    State.Distinct { s with registry := (s.registry.ask q).2 } := by
  rcases s.registry.ask_cases q with ⟨_, f, rejected⟩ | ⟨_, v, g, answered, hands⟩
  · rw [rejected]
    exact n
  · rw [answered]
    refine ⟨n.toLabelled.hands hands, fun r key there known => ?_⟩
    exact n.values r key there ((hands.labels_of_used n.registry (n.used r there)).mp known)

end State.Distinct

/-- Whatever changes keeps vertices apart. -/
theorem State.Changes.distinct ⦃s t : State⦄ (h : s.Changes t) (n : s.Distinct) : t.Distinct := by
  have labelled := h.labelled n.toLabelled
  have grown := h.grows
  cases h with
  | fills h =>
      cases h with
      | creates h =>
          cases h with
          | observed heap registry => exact n.of_grown grown (by rw [heap]) registry labelled
          | alloc k plain => exact n.add .next (absurd rfl) labelled
          | data v => exact n.add (s.registry.hands_best v) (fun _ => ⟨v, rfl, rfl⟩) labelled
      | cache computed => exact n.of_grown grown (Heap.size_update _ _ _) rfl labelled
      | result derived => exact n.of_grown grown (Heap.size_update _ _ _) rfl labelled
  | write value => exact n.of_grown grown (Heap.size_update _ _ _) rfl labelled
  | append items => exact n.of_grown grown (Heap.size_update _ _ _) rfl labelled
  | own owner => exact n.of_grown grown (Heap.size_update _ _ _) rfl labelled

/-- Objects that share a vertex are one object, or values of one type and one label. -/
theorem State.Distinct.unique {s : State} (n : s.Distinct) {a b : Ref}
    (exist : a.index < s.heap.size) (exist' : b.index < s.heap.size)
    (same : s.heap.vertex a = s.heap.vertex b) :
    a = b ∨ ∃ v w, (s.heap.cell a).value? = some v ∧ (s.heap.cell b).value? = some w ∧
      v.tag = w.tag ∧ v.label = w.label := by
  refine ((n.vertex_iff exist exist').mp same).imp id ?_
  rintro ⟨key, labels, labels'⟩
  obtain ⟨v, value, known⟩ := n.values a key exist labels
  obtain ⟨w, value', known'⟩ := n.values b key exist' labels'
  obtain ⟨text, label, rfl⟩ := Option.map_eq_some_iff.mp known
  obtain ⟨text', label', is⟩ := Option.map_eq_some_iff.mp known'
  obtain ⟨tags, texts⟩ := Prod.mk.inj is
  exact ⟨v, w, value, value', tags.symm, by rw [label, label', texts]⟩

/-! ## Homes in histories -/

namespace Moment

variable {m m' : Moment} {r home : Ref}

/-- At every moment of a history vertices are apart. -/
theorem Before.distinct (began : first.Before m) : m.state.Distinct := by
  refine began.invariant (P := State.Distinct) ?_ State.Changes.distinct ?_ fun q n => n.asks q
  · refine ⟨⟨⟨Registry.sound_empty, nofun, nofun, nofun⟩, ?_⟩, nofun⟩
    intro r v key kind
    cases Nat.not_lt_zero _ (Heap.lt_size_of_kind kind)
  · exact fun name r n => ⟨n.toLabelled.of_heap rfl rfl, n.values⟩

/-- The home is a value, or can be reached along strong references. -/
def Keeps (m : Moment) (home : Ref) : Prop :=
  (m.state.heap.cell home).isData = true ∨ m.state.heap.Kept m.roots home

/-- Whether a home is kept does not change when what is in use is counted once more. -/
theorem keeps_cons (there : r ∈ m.inUse) :
    Keeps ⟨m.state, r :: m.inUse⟩ home ↔ m.Keeps home := by
  have roots (x : Ref) : x ∈ Moment.roots ⟨m.state, r :: m.inUse⟩ ↔ x ∈ m.roots := by
    rw [mem_roots_iff, List.mem_cons, mem_roots_iff]
    refine or_congr Iff.rfl ⟨?_, .inr⟩
    rintro (rfl | there')
    exacts [there, there']
  simp only [Keeps, Heap.Kept, roots]

theorem Intact.home?_of_keeps (intact : m.Intact)
    (homed : (m.state.heap.cell r).home? = some home) :
    (m.Keeps home → m.state.home? m.inUse r = some home) ∧
      (¬ m.Keeps home → m.state.home? m.inUse r = none) := by
  have given := intact.home?_iff homed
  have keeps : m.Keeps home ↔
      ((m.state.heap.cell home).isData = true ∨ ¬ Gone ⟨m.state, m.inUse⟩ home) := by
    rw [Keeps, Gone, Heap.gone_iff_unreachable, not_not]
  exact ⟨fun here => given.1.mpr (keeps.mp here), fun gone => given.2.mpr (gone ∘ keeps.mpr)⟩

/-- What is not kept is lost. -/
theorem Intact.lost (intact : m.Intact) (homed : (m.state.heap.cell r).home? = some home)
    (gone : ¬ m.Keeps home) : m.Lost home := by
  refine ⟨intact.exist_home homed, ?_⟩
  rw [Gone, Heap.gone_iff_unreachable]
  exact fun kept => gone (.inr kept)

/-- **Homes last as long as they are kept.**  At any moment of any history, the home that an object
was built with is given by `home?` and by `σ` if it is a value or can be reached along strong
references from what is in use, global, or held in a circle; otherwise there is none, and `σ` tells
that the home is gone.  Whatever happens later, the object refers to the same home and has the same
vertex, and if the home is not kept at some moment it never is again.  A copy has the home of what
it is a copy of.  No two objects share a vertex, except for values of one type and one label. -/
theorem homes_last_as_long_as_kept (began : first.Before m) :
    (∀ {r home : Ref}, (m.state.heap.cell r).home? = some home →
      (m.Keeps home → m.state.home? m.inUse r = some home ∧
        (r ∈ m.inUse → ∀ depth tracing steps,
          answerWithin (steps + 1) (.find r sigma) ⟨depth, tracing, m.inUse⟩ m.state =
            .answer (.fixed r sigma home) m.state)) ∧
      (¬ m.Keeps home → m.state.home? m.inUse r = none ∧
        (r ∈ m.inUse → ∀ depth tracing steps,
          answerWithin (steps + 1) (.find r sigma) ⟨depth, tracing, m.inUse⟩ m.state =
            .failure (.homeGone (m.state.heap.subject r)) m.state)) ∧
      ∀ m', m.Before m' → (m'.state.heap.cell r).home? = some home ∧
        (¬ m.Keeps home → ¬ m'.Keeps home) ∧ m'.state.heap.vertex r = m.state.heap.vertex r) ∧
    (∀ (form : String) (home : Option Ref) (slots : Slots) (ask : Answerer) (frame : Frame),
      ∃ o t, (Operation.build form home slots).run ask frame m.state = .answer o t ∧
        (t.heap.cell o).home? = home) ∧
    (∀ {r c : Ref} {frame : Frame} {steps : Nat} {t : State},
      copyOf (answerWithin steps) r frame m.state = .answer c t → ∃ o u,
        settle (answerWithin steps) r frame m.state = .answer o u ∧
          (t.heap.cell c).home? = (u.heap.cell o).home?) ∧
    (∀ {a b : Ref}, a.index < m.state.heap.size → b.index < m.state.heap.size →
      m.state.heap.vertex a = m.state.heap.vertex b → a = b ∨ ∃ v w,
        (m.state.heap.cell a).value? = some v ∧ (m.state.heap.cell b).value? = some w ∧
          v.tag = w.tag ∧ v.label = w.label) := by
  have intact := began.intact
  refine ⟨fun {r home} homed => ?_, fun form home slots ask frame => ?_,
    fun copied => home?_of_copyOf copied, fun exist exist' => began.distinct.unique exist exist'⟩
  · have given := intact.home?_of_keeps homed
    have exist : r.index < m.state.heap.size := by
      by_contra out
      rw [m.state.heap.cell_of_ge out] at homed
      cases homed
    -- what is looked up through `σ` is in use once more
    have known := began.keeps (After.refl intact_first fun _ => id)
    have shown (there : r ∈ m.inUse) :=
      (custody.both (custody.fewer known (List.forall_mem_singleton.mpr there))
        known).toIntact.home?_of_keeps homed
    refine ⟨fun keeps => ⟨given.1 keeps, fun there depth tracing steps => ?_⟩,
      fun gone => ⟨given.2 gone, fun there depth tracing steps => ?_⟩, fun m' before => ?_⟩
    · have home : m.state.home? (r :: m.inUse) r = some home :=
        (shown there).1 ((keeps_cons there).mpr keeps)
      rw [find_home homed, home]
    · have none : m.state.home? (r :: m.inUse) r = none :=
        (shown there).2 (gone ∘ (keeps_cons there).mp)
      rw [find_home homed, none]
    · have grown := began.grows before
      refine ⟨(grown.cell r exist).home?.trans homed, fun gone keeps => ?_, grown.vertex exist⟩
      have lost := intact.lost homed gone
      rcases keeps with isData | kept
      · rw [(grown.cell home lost.1).isData] at isData
        exact gone (.inl isData)
      · exact Heap.Gone.not_kept (began.lost before lost) kept
  · refine ⟨_, _, rfl, ?_⟩
    exact congrArg Cell.home? (m.state.heap.cell_alloc_self _)

/-! ## A home that is dropped -/

/-- A scope and an object that was built in it are in use. -/
def withScope : Moment :=
  let scope := Instant.done ⟨.operation (.build "scope" none []), 0, {}, {}⟩
  let child := Operation.build "child" (some ⟨0⟩) []
  (Instant.done ⟨.operation child, 0, { held := scope.moment.inUse }, scope.moment.state⟩).moment

/-- The scope is dropped, and the object that was built in it is kept. -/
def withoutScope : Moment := ⟨withScope.state, [⟨1⟩]⟩

theorem reached_withScope : withScope.Reached := by
  have scope : first.Performs ⟨.operation (.build "scope" none []), 0, {}, {}⟩ := .mk nofun trivial
  refine .tail (.single (.performs scope)) (.performs (.mk ?_ trivial))
  decide

theorem withScope_before : withScope.Before withoutScope :=
  .single (.does reached_withScope (.drops (by decide)))

/-- The home of the object is there as long as the scope is in use, and gone when it is not. -/
theorem dropped_home_is_gone :
    (withScope.Keeps ⟨0⟩ ∧ withScope.state.home? withScope.inUse ⟨1⟩ = some ⟨0⟩) ∧
      ¬ withoutScope.Keeps ⟨0⟩ ∧ withoutScope.state.home? withoutScope.inUse ⟨1⟩ = none := by
  have homed : (withScope.state.heap.cell ⟨1⟩).home? = some ⟨0⟩ := rfl
  have began := reached_withScope.before
  have lasting := (homes_last_as_long_as_kept began).1 homed
  have leaving := (homes_last_as_long_as_kept (began.trans withScope_before)).1 homed
  have keeps : withScope.Keeps ⟨0⟩ := by
    refine .inr ⟨⟨0⟩, .inl ?_, .refl⟩
    decide
  have gone : withoutScope.state.home? withoutScope.inUse ⟨1⟩ = none := by decide
  refine ⟨⟨keeps, (lasting.1 keeps).1⟩, fun keeps => ?_, gone⟩
  cases gone.symm.trans (leaving.1 keeps).1

end Moment

end PhiCalculus
