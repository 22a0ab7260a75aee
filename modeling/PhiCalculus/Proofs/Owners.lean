import PhiCalculus.Proofs.Resolution

/-!
# Owners

While a program runs, an owner is bound where a copy of an attribute is made, and it is the object
behind the views of what the attribute is of.  So owners are no views
(`Program.owners_concrete`).
-/

set_option autoImplicit false

namespace PhiCalculus

/-- Owners are no views. -/
def State.OwnersConcrete (s : State) : Prop :=
  ∀ r owner, (s.heap.cell r).owner? = some owner →
    owner.index < s.heap.size ∧ (s.heap.cell owner).isView = false

/-- An update gives an object no owner but what it makes of it has one. -/
theorem Heap.owner?_update {h : Heap} {r x owner : Ref} {f : Kind → Kind}
    (owned : ((h.update r f).cell x).owner? = some owner) :
    (h.cell x).owner? = some owner ∨
      x = r ∧ (⟨h.vertex r, f (h.cell r).kind⟩ : Cell).owner? = some owner := by
  by_cases same : x = r
  · subst same
    by_cases exist : x.index < h.size
    · rw [h.cell_update_self exist] at owned
      exact .inr ⟨rfl, owned⟩
    · have out : ¬ x.index < (h.update x f).size := by rwa [Heap.size_update]
      rw [Heap.cell_of_ge _ out] at owned
      cases owned
  · rw [h.cell_update_of_ne same] at owned
    exact .inl owned

/-- Where an update binds no owner, the owners are as before. -/
theorem Heap.owner?_of_update {h : Heap} {r x owner : Ref} {f : Kind → Kind}
    (same : ∀ v k, (⟨v, f k⟩ : Cell).owner? = (⟨v, k⟩ : Cell).owner?)
    (owned : ((h.update r f).cell x).owner? = some owner) : (h.cell x).owner? = some owner :=
  (h.look_update Cell.owner? same r x).symm.trans owned

namespace State.OwnersConcrete

variable {s t : State}

/-- Owners stay what they are, and those that are new are no views. -/
theorem next (owners : s.OwnersConcrete) (grown : s.heap.Grows t.heap)
    (new : ∀ r owner, (t.heap.cell r).owner? = some owner →
      (s.heap.cell r).owner? = some owner ∨
        owner.index < s.heap.size ∧ (s.heap.cell owner).isView = false) : t.OwnersConcrete := by
  intro r owner owned
  have old : owner.index < s.heap.size ∧ (s.heap.cell owner).isView = false :=
    (new r owner owned).elim (owners r owner) id
  exact ⟨Nat.lt_of_lt_of_le old.1 grown.size, (grown.cell owner old.1).isView.trans old.2⟩

end State.OwnersConcrete

/-- **Owners that are no views are in custody** along with whatever else is. -/
def Custody.withOwners {ι : Type} (W : Custody ι) : Custody ι where
  Holds i known s := W.Holds i known s ∧ s.OwnersConcrete
  Whole := W.Whole
  Owner s o := W.Owner s o ∧ (s.heap.cell o).isView = false
  exist here there := W.exist here.1 there
  fewer here less := ⟨W.fewer here.1 less, here.2⟩
  both here more := ⟨W.both here.1 more.1, here.2⟩
  held here there holds := ⟨W.held here.1 there holds, here.2⟩
  global here found := ⟨W.global here.1 found, here.2⟩
  home here there all found := ⟨W.home here.1 there all found, here.2⟩
  owner_concrete concrete := ⟨W.owner_concrete concrete, concrete⟩
  owner_bound here bound := ⟨W.owner_bound here.1 bound, (here.2 _ _ bound).2⟩
  seen here heap globals := ⟨W.seen here.1 heap globals, by
    rw [State.OwnersConcrete, heap]
    exact here.2⟩
  add {i known s t c} here heap globals free refs home := by
    refine ⟨W.add here.1 heap globals free refs home, here.2.next ?_ fun r owner owned => .inl ?_⟩
    · rw [heap]
      exact s.heap.grows_alloc c
    · rw [heap] at owned
      rcases s.heap.cell_alloc_cases c r with ⟨-, same⟩ | ⟨-, same⟩ | ⟨-, same⟩ <;>
        rw [same] at owned
      · exact owned
      · cases free.symm.trans owned
      · cases owned
  slot here there found grown refs := by
    refine ⟨W.slot here.1 there found grown refs,
      here.2.next (Heap.grows_setSlot _ found grown) fun r owner owned => .inl ?_⟩
    exact Heap.owner?_of_update (fun v k => by cases k <;> rfl) owned
  own {i known s r o} here there other owns free := by
    refine ⟨W.own here.1 there other owns.1 free,
      here.2.next (Heap.grows_setOwner _ free) fun x owner owned => ?_⟩
    rcases Heap.owner?_update owned with owned | ⟨rfl, owned⟩
    · exact .inl owned
    · cases kind : (s.heap.cell x).kind with
      | table t =>
          rw [kind] at owned
          cases owned
          exact .inr ⟨W.exist here.1 other, owns.2⟩
      | data v =>
          rw [kind] at owned
          cases owned
      | view v result =>
          rw [kind] at owned
          cases owned
  result here there other free := by
    refine ⟨W.result here.1 there other free,
      here.2.next (Heap.grows_setResult _ free) fun r owner owned => .inl ?_⟩
    exact Heap.owner?_of_update (fun v k => by cases k <;> rfl) owned

/-! ## Runs of programs -/

namespace Program

variable {p : Program} {earlier : List String} {depth steps : Nat} {tracing : Bool} {root : String}
  {c : Call}

/-- **What is in custody where a program begins to run is in custody in the midst of its runs.** -/
theorem keeps_of_within {ι : Type} {W : Custody ι} (all : W.Whole) {i : ι}
    (here : W.Holds i [] p.base)
    (within : (p.runOf earlier ⟨depth, tracing, []⟩ root steps).Within c) :
    W.Holds i c.inUse c.state := by
  have dataized (names : List String) {s : State} (here : W.Holds i [] s) :
      W.Holds i [] (s.dataizing ⟨depth, tracing, []⟩ names) := by
    induction names generalizing s with
    | nil => exact here
    | cons name rest ih =>
        have proper : Call.Proper ⟨.operation (.global name), stepLimit, ⟨depth, tracing, []⟩, s⟩ :=
          ⟨nofun, trivial⟩
        exact ih (W.fewer (proper.ends False.elim here) nofun)
  exact (within.keeps all False.elim ⟨nofun, trivial⟩ (dataized earlier here)).2

/-- Where a program begins to run, nothing has an owner. -/
theorem ownersConcrete_base (checked : p.check = .ok ()) : p.base.OwnersConcrete := by
  intro r owner owned
  obtain ⟨late, exist⟩ := (p.fits_base checked).ordinary_of_owner owned
  exact absurd exist (Nat.not_lt_of_le late)

/-- At every moment of a run, nothing is lost, and owners are no views. -/
theorem holds_of_within (checked : p.check = .ok ())
    (within : (p.runOf earlier ⟨depth, tracing, []⟩ root steps).Within c) :
    Moment.custody.withOwners.Holds Moment.first c.inUse c.state :=
  keeps_of_within (W := Moment.custody.withOwners) trivial
    ⟨(p.reached_base checked).after_first, ownersConcrete_base checked⟩ within

end Program

end PhiCalculus
