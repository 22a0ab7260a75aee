import PhiCalculus.Proofs.CarefulExpressions
import PhiCalculus.Proofs.Existence

/-!
# Objects that nothing refers to

A view that was just made, and a copy on which an argument is about to land, are known to nobody but
the function that works on them: nothing else refers to them, not even as its home.  They are
secluded (`State.Secluded`).  Whatever is evaluated meanwhile for other objects cannot come across
them, so it leaves them as they are, and secluded (`State.Secluded.answered`).

An object can be secluded when it is made (`State.Secluded.conceal`), and becomes known when the
function hands it out (`State.Secluded.reveal`).
-/

set_option autoImplicit false

namespace PhiCalculus

open PhiCalculus.Action

variable {start : Heap} {aside : Ref → Prop} {known : List Ref} {s t : State} {r x : Ref}

/-- Homes that are set aside are homes of nothing else. -/
def Heap.HomesAside (h : Heap) (aside : Ref → Prop) : Prop :=
  ∀ r home, (h.cell r).home? = some home → aside home → aside r

/-- Objects do not move, so it suffices that new ones are not built in what is set aside. -/
theorem Heap.HomesAside.grows {h h' : Heap} (homes : h.HomesAside aside) (grown : h.Grows h')
    (new : ∀ r home, h.size ≤ r.index → (h'.cell r).home? = some home → ¬ aside home) :
    h'.HomesAside aside := by
  intro r home homed is
  by_cases old : r.index < h.size
  · exact homes r home ((grown.cell r old).home?.symm.trans homed) is
  · exact absurd is (new r home (Nat.le_of_not_lt old) homed)

/-- Where an update makes no new object, there are no new homes. -/
theorem Heap.HomesAside.update {h : Heap} (homes : h.HomesAside aside) {f : Kind → Kind}
    (grown : h.Grows (h.update r f)) : (h.update r f).HomesAside aside := by
  refine homes.grows grown fun q home late homed => ?_
  have out : ¬ q.index < (h.update r f).size := by rwa [Heap.size_update, Nat.not_lt]
  rw [Heap.cell_of_ge _ out] at homed
  cases homed

/-- **What is secluded stays out of custody**: that nothing set aside in a heap is used, and that
nothing else is built in it. -/
def seclusion : Custody (Heap × (Ref → Prop)) where
  Holds i known s := Untouched i.1 i.2 known s ∧ s.heap.HomesAside i.2
  Whole := False
  Owner _ _ := True
  exist here there := (here.1.of_known there).1
  fewer here less :=
    ⟨here.1.knowing fun r there => .inl (Moment.mem_roots_iff.mpr (.inr (less r there))), here.2⟩
  both here more := by
    refine ⟨here.1.knowing fun r there => ?_, here.2⟩
    rcases List.mem_append.mp there with there | there
    · exact .inl (Moment.mem_roots_iff.mpr (.inr there))
    · exact .inr (more.1.of_known there)
  held here there holds := by
    refine ⟨here.1.knowing fun x only => .inr ?_, here.2⟩
    rw [List.mem_singleton.mp only]
    exact here.1.held there holds
  global here found := by
    refine ⟨here.1.knowing fun x only => .inl ?_, here.2⟩
    rw [List.mem_singleton.mp only]
    exact Moment.mem_roots_of_global found
  home {i known inUse s r home} here there _ found := by
    refine ⟨here.1.knowing fun x only => .inr ?_, here.2⟩
    rw [List.mem_singleton.mp only]
    have homed := State.home?_eq found
    exact ⟨here.1.toIntact.exist_home homed,
      fun is => (here.1.of_known there).2 (here.2 r home homed is)⟩
  owner_concrete _ := trivial
  owner_bound _ _ := trivial
  seen here heap globals := ⟨here.1.seen heap globals, heap ▸ here.2⟩
  add {i known s t c} here heap globals _ refs home := by
    refine ⟨here.1.add heap globals refs home, ?_⟩
    rw [heap]
    refine here.2.grows (s.heap.grows_alloc c) fun q o late homed is => ?_
    rcases Heap.home?_of_alloc homed with ⟨old, -⟩ | ⟨-, homed⟩
    · exact absurd old (Nat.not_lt_of_le late)
    · rcases home o homed with there | ⟨q', there, homed'⟩
      · exact (here.1.of_known there).2 is
      · exact (here.1.of_known there).2 (here.2 q' o homed' is)
  slot here there found grown refs :=
    ⟨here.1.setSlot there found grown refs, here.2.update (Heap.grows_setSlot _ found grown)⟩
  own here there other _ free :=
    ⟨here.1.setOwner there other free, here.2.update (Heap.grows_setOwner _ free)⟩
  result here there other free :=
    ⟨here.1.setResult there other free, here.2.update (Heap.grows_setResult _ free)⟩

/-- The objects set aside are secluded, and the others may be known. -/
def State.Secluded (s : State) (aside : Ref → Prop) (known : List Ref) : Prop :=
  seclusion.Holds (s.heap, aside) known s

namespace State.Secluded

/-- What stayed out of custody is secluded still. -/
theorem of_custody (here : seclusion.Holds (start, aside) known s) : s.Secluded aside known := by
  obtain ⟨⟨intact, before, grows, spared, still, apart⟩, homes⟩ := here
  exact ⟨⟨intact, fun r is => Nat.lt_of_lt_of_le (before r is) grows.size, Heap.Grows.refl _,
    spared, fun _ _ => rfl, apart⟩, homes⟩

/-- Nothing need be set aside. -/
theorem of_intact {m : Moment} (intact : m.Intact)
    (exist : ∀ r ∈ known, r.index < m.state.heap.size) (none : ∀ x, ¬ aside x) :
    m.state.Secluded aside known := by
  have rooted (r : Ref) (there : r ∈ Moment.roots ⟨m.state, known⟩) :
      r.index < m.state.heap.size :=
    (Moment.mem_roots_iff.mp there).elim
      (fun there => intact.exist r (List.mem_append_left _ there)) (exist r)
  exact ⟨⟨⟨intact.closed, intact.older, rooted⟩, fun r is => absurd is (none r), Heap.Grows.refl _,
    fun r _ => none r, fun _ _ => rfl, fun _ x _ is => absurd is (none x)⟩,
    fun _ home _ is => absurd is (none home)⟩

theorem exist (here : s.Secluded aside known) (there : r ∈ known) : r.index < s.heap.size :=
  seclusion.exist here there

theorem fewer (here : s.Secluded aside known) {less : List Ref} (sub : ∀ x ∈ less, x ∈ known) :
    s.Secluded aside less :=
  seclusion.fewer here sub

theorem congr (here : s.Secluded aside known) (aside' : Ref → Prop)
    (same : ∀ x, aside x ↔ aside' x) : s.Secluded aside' known := by
  rwa [show aside' = aside from funext fun x => propext (same x).symm]

/-- What a known object refers to, as its home or otherwise, is not set aside. -/
theorem apart (here : s.Secluded aside known) (there : r ∈ known)
    (refers : x ∈ (s.heap.cell r).refs ∨ (s.heap.cell r).home? = some x) :
    x.index < s.heap.size ∧ ¬ aside x := by
  rcases refers with there' | homed
  · exact here.1.held there (Heap.holds_of_refs there')
  · exact ⟨here.1.toIntact.exist_home homed,
      fun is => (here.1.of_known there).2 (here.2 r x homed is)⟩

/-- **What is secluded is left alone**: a request that is made about known objects is answered
without any change to what is set aside. -/
theorem answered (here : s.Secluded aside known) {α : Type} (q : Request α)
    (asked : ∀ x ∈ q.refs, x ∈ known) (proper : q.Proper known s) (frame : Frame) (steps : Nat) :
    let o := answerWithin steps q frame s
    o.state.Secluded aside (q.told o ++ known) ∧
      ∀ r, aside r → o.state.heap.cell r = s.heap.cell r := by
  let setting : seclusion.Setting := ⟨frame, known, False.elim⟩
  have start : seclusion.Holds (s.heap, aside) (q.refs ++ setting.held) s :=
    here.fewer fun x there => (List.mem_append.mp there).elim (asked x) id
  have ends : seclusion.Holds _ (q.told (answerWithin steps q setting.frame s) ++
      (q.refs ++ setting.held)) (answerWithin steps q setting.frame s).state :=
    (Custody.keeps_answerWithin steps).holds proper _ start
  refine ⟨of_custody (seclusion.fewer ends fun x there => ?_), ends.1.still⟩
  simp only [List.mem_append] at there ⊢
  exact there.imp id .inr

/-- A new object may be set aside. -/
theorem conceal (here : s.Secluded aside known) {c : Cell} (heap : t.heap = (s.heap.alloc c).2)
    (globals : t.globals = s.globals) (refs : ∀ x ∈ c.refs, x.index < s.heap.size)
    (homed : ∀ home, c.home? = some home → home.index < s.heap.size) :
    t.Secluded (fun x => aside x ∨ x = ⟨s.heap.size⟩) known := by
  have exist_home {q home : Ref} (is : (s.heap.cell q).home? = some home) :
      home.index < s.heap.size := here.1.toIntact.exist_home is
  obtain ⟨⟨⟨closed, older, exist⟩, before, -, spared, -, apart⟩, homes⟩ := here
  have there {q : Ref} : q.index < t.heap.size ↔ q.index < s.heap.size ∨ q = ⟨s.heap.size⟩ :=
    heap ▸ s.heap.lt_size_alloc
  have made {q : Ref} (exist : q.index < s.heap.size) : q ≠ ⟨s.heap.size⟩ := fun same =>
    Nat.lt_irrefl _ (same ▸ exist)
  have ages (q home : Ref) (is : (t.heap.cell q).home? = some home) :
      home.index < q.index ∧ home.index < s.heap.size ∧
        ((s.heap.cell q).home? = some home ∨ q = ⟨s.heap.size⟩) := by
    rw [heap] at is
    rcases Heap.home?_of_alloc is with ⟨-, was⟩ | ⟨rfl, new⟩
    · exact ⟨older q home was, exist_home was, .inl was⟩
    · exact ⟨homed home new, homed home new, .inr rfl⟩
  -- what an object holds it held before, or it is the new one
  have holds (q x : Ref) (held : x ∈ t.heap.holds q) :
      x.index < s.heap.size ∧ (x ∈ s.heap.holds q ∨ q = ⟨s.heap.size⟩) := by
    rw [heap] at held
    rcases Heap.holds_of_alloc (fun _ => exist_home) held with held | ⟨new, referred | ⟨is, -⟩⟩
    · exact ⟨closed q x held, .inl held⟩
    · exact ⟨refs x referred, .inr new⟩
    · exact ⟨homed x is, .inr new⟩
  have rooted (q : Ref) (there : q ∈ Moment.roots ⟨t, known⟩) : q ∈ Moment.roots ⟨s, known⟩ := by
    rw [Moment.mem_roots_iff] at there ⊢
    rwa [globals] at there
  refine ⟨⟨⟨fun q x held => ?_, fun q home is => (ages q home is).1, fun q root => ?_⟩,
    fun q is => ?_, Heap.Grows.refl _, fun q root => ?_, fun _ _ => rfl, fun q x held is => ?_⟩,
    fun q home is aside => ?_⟩
  · exact there.mpr (.inl (holds q x held).1)
  · exact there.mpr (.inl (exist q (rooted q root)))
  · exact there.mpr (is.imp (before q) id)
  · exact not_or.mpr ⟨spared q (rooted q root), made (exist q (rooted q root))⟩
  · obtain ⟨early, held' | new⟩ := holds q x held
    · exact .inl (apart q x held' (is.resolve_right (made early)))
    · exact .inr new
  · obtain ⟨-, early, is' | new⟩ := ages q home is
    · exact .inl (homes q home is' (aside.resolve_right (made early)))
    · exact .inr new

/-- An object that was set aside becomes known. -/
theorem reveal (here : s.Secluded aside known) (exist : r.index < s.heap.size)
    (refers : ∀ x, x ∈ (s.heap.cell r).refs ∨ (s.heap.cell r).home? = some x → aside x → x = r) :
    s.Secluded (fun x => aside x ∧ x ≠ r) (r :: known) := by
  obtain ⟨⟨⟨closed, older, exist'⟩, before, -, spared, -, apart⟩, homes⟩ := here
  have rooted (q : Ref) (there : q ∈ Moment.roots ⟨s, r :: known⟩) :
      q = r ∨ q ∈ Moment.roots ⟨s, known⟩ := by
    simp only [Moment.mem_roots_iff, List.mem_cons] at there ⊢
    tauto
  refine ⟨⟨⟨closed, older, fun q there => ?_⟩, fun q is => before q is.1, Heap.Grows.refl _,
    fun q there is => ?_, fun _ _ => rfl, fun q x held is => ⟨apart q x held is.1, ?_⟩⟩,
    fun q x is secret => ⟨homes q x is secret.1, ?_⟩⟩
  · exact (rooted q there).elim (fun same => same ▸ exist) (exist' q)
  · exact (rooted q there).elim is.2 fun there => spared q there is.1
  · rintro rfl
    exact is.2 (refers x ((Heap.refs_or_home held).imp id And.left) is.1)
  · rintro rfl
    exact secret.2 (refers x (.inr is) secret.1)

end State.Secluded

end PhiCalculus
