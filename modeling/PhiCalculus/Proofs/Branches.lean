import PhiCalculus.Proofs.Integers
import PhiCalculus.Proofs.Differences

/-!
# Branches that are not forced

Dataizing the object of a choice goes on with the argument that its receiver chooses, and dataizing
an access to an array goes on with the element at the index.  The other argument and the other
elements are not looked at, so they have no bearing on what is found and on what is done meanwhile,
unless what is chosen comes across the object that holds them (`branches_are_not_forced`).
-/

set_option autoImplicit false

namespace PhiCalculus

open PhiCalculus.Action

variable {frame : Frame} {s s' t u u' w w' : State} {m o r x : Ref}

/-! ## Objects that are dataized alike -/

/-- Dataizing the object finds the same from both states but for terms, with the same effects, and
then ends as it does when that has been found. -/
def Computations.DataizesAlike (c : Computations) (veiled : Ref → Prop) (m : Ref) (frame : Frame)
    (s s' : State) : Prop :=
  ∀ found u, (Link.taken m frame s).Forces c found u →
    ∃ found' u', (Link.taken m frame s').Forces c found' u' ∧ FoundAlike found found' ∧
      s.SameEffects veiled s' u u' ∧
      (∀ result t, c.Ends (.dataize m) frame s result t ↔ Concludes m frame u found result t) ∧
      ∀ result t, c.Ends (.dataize m) frame s' result t ↔ Concludes m frame u' found' result t

/-- Looking for the value of the one object is looking for that of the other one, but maybe it is
another object that is said to have no data. -/
def Link.Defers (c : Computations) (a b : Link) : Prop :=
  (∀ found u, a.Forces c found u → ∃ found', b.Forces c found' u ∧ Failure.Akin found found') ∧
    ∀ found' u, b.Forces c found' u → ∃ found, a.Forces c found u ∧ Failure.Akin found found'

namespace Link

variable {c : Computations} {a b : Link}

/-- Looking for the value of an object is looking for that of the object it decorates. -/
theorem Decorates.defers (level : c.Level) (decorates : a.Decorates c b)
    (inUse : a.object ∈ a.frame.held) (dataless : ¬ a.Declares delta) : a.Defers c b := by
  constructor
  · intro found u forces
    exact runs_forceFor_akin ((forces_decorated level decorates inUse dataless).mp forces) b.object
  · intro found' u forces
    obtain ⟨found, runs, akin⟩ := runs_forceFor_akin forces a.object
    exact ⟨found, (forces_decorated level decorates inUse dataless).mpr runs, akin.symm⟩

/-- An object in use is asked for its value in the place of another one as it is itself. -/
theorem forces_taken (level : c.Level) (inUse : x ∈ frame.held) {found : Except Failure Value} :
    (taken x (frame.holding [m]) w).Forces c found u ↔
      Forces c ⟨x, (taken m frame s).inside, w⟩ found u := by
  have alike : (taken x (frame.holding [m]) w).frame.Alike (taken m frame s).inside := by
    refine ⟨rfl, rfl, fun y => ?_⟩
    show y ∈ x :: m :: frame.held ↔ y ∈ m :: m :: frame.held
    simp only [List.mem_cons]
    constructor
    · rintro (rfl | there)
      · exact .inr (.inr inUse)
      · exact .inr there
    · exact .inr ∘ Or.rec .inl id
  refine exists_congr fun steps => ?_
  have same := (level_forceValue x).even (even_answered level steps) w alike
  show (forceValue (answered c steps) x).Ends (taken x (frame.holding [m]) w).frame w found u ↔
    (forceValue (answered c steps) x).Ends (taken m frame s).inside w found u
  cases found <;> simp only [Ends, same]

/-- So it may be taken itself, where it is in use. -/
theorem Decorates.defers_taken (level : c.Level)
    (decorates : (taken m frame s).Decorates c ⟨x, (taken m frame s).inside, w⟩)
    (dataless : ¬ (taken m frame s).Declares delta) (inUse : x ∈ frame.held) :
    (taken m frame s).Defers c (.taken x (frame.holding [m]) w) := by
  have same (found : Except Failure Value) (u : State) :
      (taken x (frame.holding [m]) w).Forces c found u ↔
        Forces c ⟨x, (taken m frame s).inside, w⟩ found u := forces_taken level inUse
  simpa only [Defers, same] using decorates.defers level List.mem_cons_self dataless

end Link

/-- Two states differ from a bare one in the object `o`.  Looking for the value of `x` in the place
of `m` comes across nothing from the bare state on that shows `o`, and from all three of them the
terms that are asked for come to an end. -/
structure Computations.Overlooks (c : Computations) (o m x : Ref) (frame : Frame)
    (s₀ s s' w₀ w w' : State) : Prop where
  seen : ¬ s₀.Shows o x
  detached : c.Detached (.between o s₀ s []) (.between o s₀ s' []) (fun ask => forceFor ask m x)
    ⟨x, (Link.taken m frame s₀).inside, w₀⟩ ⟨x, (Link.taken m frame s).inside, w⟩
    ⟨x, (Link.taken m frame s').inside, w'⟩

section

variable {s₀ w₀ : State} {bound bound' : String → Option Ref}

theorem Computations.Overlooks.symm {c : Computations}
    (overlooks : c.Overlooks o m x frame s₀ s s' w₀ w w') :
    c.Overlooks o m x frame s₀ s' s w₀ w' w :=
  ⟨overlooks.seen, overlooks.detached.symm⟩

/-- Where the object decorates the same object in both states, and this comes across nothing in
which they differ, it is dataized alike. -/
theorem Link.dataizesAlike_of_decorates
    (decorates : (Link.taken m frame s).Decorates .ofExpressions
      ⟨x, (Link.taken m frame s).inside, w⟩)
    (decorates' : (Link.taken m frame s').Decorates .ofExpressions
      ⟨x, (Link.taken m frame s').inside, w'⟩)
    (dataless : ¬ (Link.taken m frame s).Declares delta)
    (dataless' : ¬ (Link.taken m frame s').Declares delta)
    (veils : w₀.Veils (.between o s₀ s []) w) (veils' : w₀.Veils (.between o s₀ s' []) w')
    (overlooks : Computations.ofExpressions.Overlooks o m x frame s₀ s s' w₀ w w') :
    Computations.ofExpressions.DataizesAlike (s₀.Shows o) m frame s s' := by
  intro found u forces
  have inUse : m ∈ (Link.taken m frame s).frame.held := List.mem_cons_self
  have held (y : Ref) : y ∈ (Link.taken m frame s).inside.held ↔
      y ∈ (Link.taken m frame s).inside.held ∨ y ∈ ([] : List Ref) := by simp
  have here : Abreast (.between o s₀ s []) (Link.taken m frame s).inside
      (Link.taken m frame s).inside w₀ w := ⟨veils, rfl, rfl, held⟩
  have here' : Abreast (.between o s₀ s' []) (Link.taken m frame s).inside
      (Link.taken m frame s').inside w₀ w' := ⟨veils', rfl, rfl, held⟩
  have runs := (Link.forces_decorated level_ofExpressions decorates inUse dataless).mp forces
  obtain ⟨_, _, found', u', _, runs', same, veils, veils'⟩ :=
    TracksFrom.across overlooks.detached (tracksFrom_forceFor m overlooks.seen)
      (stepwise_forceFor m x) rfl (Nat.zero_lt_of_lt (veils.exist o .itself)) here here' runs
  have forces' := (Link.forces_decorated level_ofExpressions decorates' inUse dataless').mpr runs'
  exact ⟨found', u', forces', same, veils.sameEffects veils', fun _ _ => dataize_of_forces forces,
    fun _ _ => dataize_of_forces forces'⟩

/-- Where looking for the value fails alike in both states, the object is dataized alike. -/
theorem Link.dataizesAlike_of_failure {f f' : Failure} {veiled : Ref → Prop}
    (fails : (Link.taken m frame s).Forces .ofExpressions (.error f) w)
    (fails' : (Link.taken m frame s').Forces .ofExpressions (.error f') w') (like : f.Like f')
    (effects : s.SameEffects veiled s' w w') :
    Computations.ofExpressions.DataizesAlike veiled m frame s s' := by
  intro found u forces
  obtain ⟨rfl, rfl⟩ := fails.unique forces
  exact ⟨_, w', fails', .error like, effects, fun _ _ => dataize_of_forces forces,
    fun _ _ => dataize_of_forces fails'⟩

/-! ## Choices -/

/-- Only that argument is given. -/
def onlyAt (name : String) (bound : String → Option Ref) : String → Option Ref :=
  fun p => if p = name then bound p else none

/-- Without the other arguments, an object of a method refers to no more. -/
theorem MethodCall.veils_onlyAt (i : MethodCall) (owner : Option Ref) {name : String}
    {bound bound' : String → Option Ref} (same : bound' name = bound name) (vertex : Vertex) :
    (Cell.mk vertex (.table (i.table owner (onlyAt name bound)))).Veils
      ⟨vertex, .table (i.table owner bound')⟩ where
  vertex := rfl
  form := rfl
  isData := rfl
  home? := rfl
  refs x there := by
    have slots (bound : String → Option Ref) : x ∈ (i.method.slots bound).refs ↔
        ∃ p ∈ i.method.params, bound p = some x := by
      simp [Method.slots, Slots.refs, Slot.refs, Expr.refs]
    have more : x ∈ (i.method.slots (onlyAt name bound)).refs →
        x ∈ (i.method.slots bound').refs := by
      rw [slots, slots]
      rintro ⟨p, param, given⟩
      rw [onlyAt] at given
      split at given
      · next is => exact ⟨p, param, by rw [is, same, ← is, given]⟩
      · cases given
    have split : x ∈ owner.toList ++ (i.method.slots (onlyAt name bound)).refs := there
    show x ∈ owner.toList ++ (i.method.slots bound').refs
    rw [List.mem_append] at split ⊢
    exact split.imp id more

theorem State.Embodies.put {i : MethodCall} {owner : Option Ref}
    {bound bound' : String → Option Ref} (is : s.Embodies m i bound) :
    (s.put m (.table (i.table owner bound'))).Embodies m i bound' where
  receiver := by
    have other : i.receiver ≠ m := by
      obtain ⟨_, kind⟩ := is.kind
      rintro same
      cases (same ▸ is.receiver).symm.trans kind
    rw [s.cell_put other]
    exact is.receiver
  kind := ⟨owner, s.kind_put (Heap.lt_size_of_slot? is.body) _⟩

/-- A choice is dataized alike, whatever the argument is that is not chosen. -/
theorem choice_alike {chooses : Bool} (under : s₀.Underlies m s) (under' : s₀.Underlies m s')
    (is : s.Embodies m (.choosing r chooses) bound)
    (is' : s'.Embodies m (.choosing r chooses) bound')
    (same : bound' (Link.branchOf chooses) = bound (Link.branchOf chooses))
    (receives₀ : (Link.taken m frame s₀).Receives (.choosing r chooses) w₀)
    (receives : (Link.taken m frame s).Receives (.choosing r chooses) w)
    (receives' : (Link.taken m frame s').Receives (.choosing r chooses) w')
    (overlooks : ∀ x, bound (Link.branchOf chooses) = some x →
      Computations.ofExpressions.Overlooks m m x frame s₀ s s' w₀ w w') :
    Computations.ofExpressions.DataizesAlike (s₀.Shows m) m frame s s' := by
  have computes := computesMethods_ofExpressions
  have start := under.veils []
  have start' := under'.veils []
  have veils := start.tells rfl rfl receives₀ receives
  have veils' := start'.tells rfl rfl receives₀ receives'
  cases given : bound (Link.branchOf chooses) with
  | none =>
      have fails := Link.forces_unchosen is computes receives given
      have fails' := Link.forces_unchosen is' computes receives' (same.trans given)
      have subject : (Link.taken m frame s').subject = (Link.taken m frame s).subject :=
        (start'.subject m).trans (start.subject m).symm
      rw [subject] at fails'
      exact Link.dataizesAlike_of_failure fails fails' (.same _) (veils.sameEffects veils')
  | some x =>
      have decorates := Link.decorates_chosen is computes receives given
      have decorates' := Link.decorates_chosen is' computes receives' (same.trans given)
      exact Link.dataizesAlike_of_decorates decorates decorates'
        (Link.undeclared_of_none is.dataless) (Link.undeclared_of_none is'.dataless) veils veils'
        (overlooks x given)

/-! ## Accesses to arrays -/

variable {items₀ items items' : List Ref} {j : Ref}

/-- An array of fewer elements refers to no more. -/
theorem veils_array {items items' : List Ref} (more : ∀ x ∈ items, x ∈ items') (vertex : Vertex) :
    (Cell.mk vertex (.data (.array items))).Veils ⟨vertex, .data (.array items')⟩ :=
  ⟨rfl, rfl, rfl, rfl, more⟩

/-- The object is one of the method for the other elements. -/
theorem State.Embodies.put_items {items : List Ref} {bound : String → Option Ref}
    (is : s.Embodies m (.picking r items) bound) (items' : List Ref) :
    (s.put r (.data (.array items'))).Embodies m (.picking r items') bound where
  receiver := s.kind_put (Heap.lt_size_of_kind is.receiver) _
  kind := by
    obtain ⟨owner, kind⟩ := is.kind
    have other : m ≠ r := by
      rintro rfl
      cases is.receiver.symm.trans kind
    exact ⟨owner, by rw [s.cell_put other, kind]; rfl⟩

/-- From the state with the bare array on, dataizing the index comes across nothing that shows the
array, and with all three arrays the terms that are asked for come to an end. -/
def Computations.OverlooksForIndex (c : Computations) (m r j : Ref) (frame : Frame)
    (items₀ items items' : List Ref) (s₀ s s' w₀ w w' : State) : Prop :=
  c.Detached (.between r s₀ s items) (.between r s₀ s' items') (fun ask => ask (.dataize j))
    ⟨j, (Link.taken m frame s₀).asking (.picking r items₀), w₀⟩
    ⟨j, (Link.taken m frame s).asking (.picking r items), w⟩
    ⟨j, (Link.taken m frame s').asking (.picking r items'), w'⟩

/-- At the index that is found, the other elements have the same element, the chosen one, or there
is none in both. -/
def Link.PicksAlike (c : Computations) (a : Link) (r j : Ref) (items items' : List Ref)
    (chosen : Option Ref) (w : State) : Prop :=
  ∀ index u, a.Indexes c r items j w index u → elementOf items' index = elementOf items index ∧
    ∀ x, elementOf items index = .ok x → chosen = some x

/-- What is picked is the same but for terms. -/
theorem elementOf_alike {index index' : Except Failure Value}
    (matched : FoundAlike index index')
    (same : elementOf items' index = elementOf items index) :
    FoundAlike (elementOf items index) (elementOf items' index') := by
  cases matched with
  | ok v =>
      rw [same]
      cases elementOf items (.ok v) with
      | ok y => exact .ok y
      | error f => exact .error (.same f)
  | error like => exact .error like

/-- From where the elements are dataized alike, the index is found to be the same. -/
theorem exists_indexes {index : Except Failure Value} (under : s₀.Underlies r s)
    (under' : s₀.Underlies r s') (more : ∀ x ∈ items₀, x ∈ items ∧ x ∈ items')
    (receives₀ : (Link.taken m frame s₀).Receives (.picking r items₀) w₀)
    (receives' : (Link.taken m frame s').Receives (.picking r items') w')
    (indexing : Computations.ofExpressions.OverlooksForIndex m r j frame items₀ items items' s₀ s s'
      w₀ w w')
    (indexes : (Link.taken m frame s).Indexes .ofExpressions r items j w index u) :
    ∃ index₀ u₀ index' u',
      (Link.taken m frame s₀).Indexes .ofExpressions r items₀ j w₀ index₀ u₀ ∧
      (Link.taken m frame s').Indexes .ofExpressions r items' j w' index' u' ∧
        FoundAlike index index' ∧ u₀.Veils (.between r s₀ s []) u ∧
          u₀.Veils (.between r s₀ s' []) u' := by
  have veils := (under.veils items).tells rfl rfl receives₀ indexes.receives
  have veils' := (under'.veils items').tells rfl rfl receives₀ receives'
  have held {elements : List Ref} (more : ∀ x ∈ items₀, x ∈ elements) (x : Ref) :
      x ∈ ((Link.taken m frame s₀).asking (.picking r elements)).held ↔
        x ∈ ((Link.taken m frame s₀).asking (.picking r items₀)).held ∨ x ∈ elements := by
    show x ∈ m :: (elements ++ (Link.taken m frame s₀).working.held) ↔
      x ∈ m :: (items₀ ++ (Link.taken m frame s₀).working.held) ∨ x ∈ elements
    have := more x
    simp only [List.mem_cons, List.mem_append]
    tauto
  have here : Abreast (.between r s₀ s items) ((Link.taken m frame s₀).asking (.picking r items₀))
      ((Link.taken m frame s).asking (.picking r items)) w₀ w :=
    ⟨veils, rfl, rfl, held fun x there => (more x there).1⟩
  have here' : Abreast (.between r s₀ s' items')
      ((Link.taken m frame s₀).asking (.picking r items₀))
      ((Link.taken m frame s').asking (.picking r items')) w₀ w' :=
    ⟨veils', rfl, rfl, held fun x there => (more x there).2⟩
  have something : 0 < w₀.heap.size := Nat.zero_lt_of_lt (veils.exist r .itself)
  obtain ⟨index₀, u₀, index', u', ends₀, ends', matched, veils, veils'⟩ :=
    TracksFrom.across indexing (tracksFrom_ask (.dataize j)) (.request _) rfl something here here'
      indexes.ends
  exact ⟨index₀, u₀, index', u', ⟨receives₀, ends₀⟩, ⟨receives', ends'⟩, matched, veils.inUse [],
    veils'.inUse []⟩

/-- An access to an array is dataized alike, whatever the elements are that are not chosen. -/
theorem element_alike {chosen : Option Ref} (under : s₀.Underlies r s) (under' : s₀.Underlies r s')
    (is : s.Embodies m (.picking r items) bound) (is' : s'.Embodies m (.picking r items') bound')
    (more : ∀ x ∈ items₀, x ∈ items ∧ x ∈ items')
    (given : bound "i" = some j) (given' : bound' "i" = some j)
    (receives₀ : (Link.taken m frame s₀).Receives (.picking r items₀) w₀)
    (receives : (Link.taken m frame s).Receives (.picking r items) w)
    (receives' : (Link.taken m frame s').Receives (.picking r items') w')
    (indexing : Computations.ofExpressions.OverlooksForIndex m r j frame items₀ items items' s₀ s s'
      w₀ w w')
    (picks : (Link.taken m frame s).PicksAlike .ofExpressions r j items items' chosen w)
    (overlooks : ∀ x index₀ index index' u₀ u u', chosen = some x →
      (Link.taken m frame s₀).Indexes .ofExpressions r items₀ j w₀ index₀ u₀ →
      (Link.taken m frame s).Indexes .ofExpressions r items j w index u →
      (Link.taken m frame s').Indexes .ofExpressions r items' j w' index' u' →
      Computations.ofExpressions.Overlooks r m x frame s₀ s s' u₀ u u') :
    Computations.ofExpressions.DataizesAlike (s₀.Shows r) m frame s s' := by
  have computes := computesMethods_ofExpressions
  intro found t forces
  obtain ⟨index, u, indexes⟩ := Link.exists_index is computes receives given forces
  obtain ⟨index₀, u₀, index', u', indexes₀, indexes', matched, veils, veils'⟩ :=
    exists_indexes under under' more receives₀ receives' indexing indexes
  obtain ⟨same, picks⟩ := picks index u indexes
  have picked := elementOf_alike matched same
  revert found t
  suffices alike : Computations.ofExpressions.DataizesAlike (s₀.Shows r) m frame s s' from alike
  generalize found' : elementOf items' index' = choice' at picked
  cases found : elementOf items index with
  | error f =>
      rw [found] at picked
      cases picked with
      | error like =>
          have fails := Link.forces_no_element is computes given indexes found
          have fails' := Link.forces_no_element is' computes given' indexes' found'
          exact Link.dataizesAlike_of_failure fails fails' like.ofMissing (veils.sameEffects veils')
  | ok x =>
      rw [found] at picked
      cases picked
      have overlooks := overlooks x index₀ index index' u₀ u u' (picks x found) indexes₀ indexes
        indexes'
      have decorates := Link.decorates_element is computes given indexes found
      have decorates' := Link.decorates_element is' computes given' indexes' found'
      exact Link.dataizesAlike_of_decorates decorates decorates'
        (Link.undeclared_of_none is.dataless) (Link.undeclared_of_none is'.dataless) veils veils'
        overlooks

/-- The same element is picked from the other elements as well. -/
theorem picks_symm {chosen : Option Ref} (under : s₀.Underlies r s) (under' : s₀.Underlies r s')
    (more : ∀ x ∈ items₀, x ∈ items ∧ x ∈ items')
    (receives₀ : (Link.taken m frame s₀).Receives (.picking r items₀) w₀)
    (receives : (Link.taken m frame s).Receives (.picking r items) w)
    (indexing : Computations.ofExpressions.OverlooksForIndex m r j frame items₀ items items' s₀ s s'
      w₀ w w')
    (picks : (Link.taken m frame s).PicksAlike .ofExpressions r j items items' chosen w) :
    (Link.taken m frame s').PicksAlike .ofExpressions r j items' items chosen w' := by
  intro index' u' indexes'
  obtain ⟨_, _, index, u, _, indexes, matched, _⟩ := exists_indexes under' under
    (fun x there => (more x there).symm) receives₀ receives indexing.symm indexes'
  obtain ⟨same, is⟩ := picks index u indexes
  cases matched with
  | ok v => exact ⟨same.symm, fun x picked => is x (same ▸ picked)⟩
  | error => exact ⟨rfl, nofun⟩

end

/-! ## Branches -/

/-- **Branches are not forced.**  To dataize the object of a choice is to look for the value of the
argument that its receiver chooses, in its place, and to dataize an access to an array is to look
for the value of the element at the index.  What the other argument is, or the other elements, has
no bearing on what is found and on what is done meanwhile, as long as the chosen object, and the
index, are found to have their values without coming across the object that holds the others:
neither that object, nor a view that has kept it, nor a home that exists only as long as that object
holds it.  This is said of an evaluation with nothing else in that object, and terms must come to an
end.

By contrast, conjunctions and disjunctions dataize the argument after the receiver, whatever that
one is, and fail as the argument does. -/
theorem branches_are_not_forced (frame : Frame) (s : State) (m r : Ref) :
    let c := Computations.ofExpressions
    let a (s : State) : Link := .taken m frame s
    (∀ (chooses : Bool) (owner : Option Ref) (bound bound' : String → Option Ref),
      let i := MethodCall.choosing r chooses
      let chosen := bound (Link.branchOf chooses)
      let bare := s.put m (.table (i.table owner (onlyAt (Link.branchOf chooses) bound)))
      let s' := s.put m (.table (i.table owner bound'))
      (s.heap.cell r).kind = .data i.value → (s.heap.cell m).kind = .table (i.table owner bound) →
      bound' (Link.branchOf chooses) = chosen →
      ∃ w₀ w w', (a bare).Receives i w₀ ∧ (a s).Receives i w ∧ (a s').Receives i w' ∧
        (∀ x, chosen = some x → (a s).Defers c ⟨x, (a s).inside, w⟩ ∧
          (x ∈ frame.held → (a s).Defers c (.taken x (frame.holding [m]) w))) ∧
        ((∀ x, chosen = some x → c.Overlooks m m x frame bare s s' w₀ w w') →
          c.DataizesAlike (s.Shows m) m frame s s' ∧ c.DataizesAlike (s.Shows m) m frame s' s)) ∧
    (∀ (items items' : List Ref) (bound : String → Option Ref) (j : Ref) (chosen : Option Ref)
        (w₀ w w' : State),
      let bare := s.put r (.data (.array chosen.toList))
      let s' := s.put r (.data (.array items'))
      s.Embodies m (.picking r items) bound → bound "i" = some j →
      (∀ x ∈ chosen.toList, x ∈ items ∧ x ∈ items') →
      (a bare).Receives (.picking r chosen.toList) w₀ → (a s).Receives (.picking r items) w →
      (a s').Receives (.picking r items') w' →
      (∀ index u x, (a s).Indexes c r items j w index u → elementOf items index = .ok x →
        (a s).Defers c ⟨x, (a s).inside, u⟩ ∧
          (x ∈ frame.held → (a s).Defers c (.taken x (frame.holding [m]) u))) ∧
      (c.OverlooksForIndex m r j frame chosen.toList items items' bare s s' w₀ w w' →
        (a s).PicksAlike c r j items items' chosen w →
        (∀ x index₀ index index' u₀ u u', chosen = some x →
          (a bare).Indexes c r chosen.toList j w₀ index₀ u₀ → (a s).Indexes c r items j w index u →
          (a s').Indexes c r items' j w' index' u' →
            c.Overlooks r m x frame bare s s' u₀ u u') →
        c.DataizesAlike (s.Shows r) m frame s s' ∧ c.DataizesAlike (s.Shows r) m frame s' s)) ∧
    ∀ (k : Connective) (z : Bool) (bound : String → Option Ref) (x : Ref),
      s.Embodies m (.joining k r z) bound → bound "x" = some x →
      ∃ w, (a s).Receives (.joining k r z) w ∧
        (∀ result t, c.Ends (.dataize m) frame s result t → ∃ argument u,
          c.Ends (.dataize x) ((a s).asking (.joining k r z)) w argument u) ∧
        ∀ argument u, c.Ends (.dataize x) ((a s).asking (.joining k r z)) w argument u →
          ∀ result t, c.Ends (.dataize m) frame s result t ↔
            Concludes m frame (u.withMade (k.of z argument)) (k.of z argument) result t := by
  intro c a
  have level : c.Level := level_ofExpressions
  have computes : c.ComputesMethods := computesMethods_ofExpressions
  -- a decorated object is asked in the place of the one that decorates it, and so is itself
  have defers {w : State} {x : Ref} (decorates : (a s).Decorates c ⟨x, (a s).inside, w⟩)
      (dataless : ¬ (a s).Declares delta) : (a s).Defers c ⟨x, (a s).inside, w⟩ ∧
        (x ∈ frame.held → (a s).Defers c (.taken x (frame.holding [m]) w)) :=
    ⟨decorates.defers level List.mem_cons_self dataless, decorates.defers_taken level dataless⟩
  refine ⟨?_, ?_, ?_⟩
  · intro chooses owner bound bound' i chosen bare s' receiver kind same
    have is : s.Embodies m i bound := ⟨receiver, owner, kind⟩
    have is₀ : bare.Embodies m i (onlyAt (Link.branchOf chooses) bound) := is.put
    have is' : s'.Embodies m i bound' := is.put
    obtain ⟨w₀, receives₀⟩ := Link.exists_receives (b := a bare) is₀ rfl
    obtain ⟨w, receives⟩ := Link.exists_receives (b := a s) is rfl
    obtain ⟨w', receives'⟩ := Link.exists_receives (b := a s') is' rfl
    refine ⟨w₀, w, w', receives₀, receives, receives', fun x given => ?_, fun overlooks => ?_⟩
    · exact defers (Link.decorates_chosen is computes receives given)
        (Link.undeclared_of_none is.dataless)
    · have exist : m.index < s.heap.size := Heap.lt_size_of_slot? is.body
      have under : bare.Underlies m s :=
        State.underlies_of_kind exist kind (i.veils_onlyAt owner rfl _)
      have under' : bare.Underlies m s' := State.underlies_put exist (i.veils_onlyAt owner same _)
      rw [← under.shows_eq is₀.concrete is.concrete]
      exact ⟨choice_alike under under' is is' same receives₀ receives receives' overlooks,
        choice_alike under' under is' is same.symm receives₀ receives' receives fun x given =>
          (overlooks x (same ▸ given)).symm⟩
  · intro items items' bound j chosen w₀ w w' bare s' is given more receives₀ receives receives'
    refine ⟨fun index u x indexes chosen => ?_, fun indexing picks overlooks => ?_⟩
    · exact defers (Link.decorates_element is computes given indexes chosen)
        (Link.undeclared_of_none is.dataless)
    · have is' : s'.Embodies m (.picking r items') bound := is.put_items items'
      have is₀ : bare.Embodies m (.picking r chosen.toList) bound := is.put_items chosen.toList
      have exist : r.index < s.heap.size := Heap.lt_size_of_kind is.receiver
      have under : bare.Underlies r s :=
        State.underlies_of_kind exist is.receiver (veils_array (fun x there => (more x there).1) _)
      have under' : bare.Underlies r s' :=
        State.underlies_put exist (veils_array (fun x there => (more x there).2) _)
      rw [← under.shows_eq (isView_of_data is₀.receiver) (isView_of_data is.receiver)]
      -- the other way, the index is found to be the same as well
      have picks' := picks_symm under under' more receives₀ receives indexing picks
      have more' (x : Ref) (there : x ∈ chosen.toList) : x ∈ items' ∧ x ∈ items :=
        (more x there).symm
      constructor
      · exact element_alike under under' is is' more given given receives₀ receives receives'
          indexing picks overlooks
      · refine element_alike under' under is' is more' given given receives₀ receives' receives
          indexing.symm picks' ?_
        intro x index₀ index' index u₀ u' u is indexes₀ indexes' indexes
        exact (overlooks x index₀ index index' u₀ u u' is indexes₀ indexes indexes').symm
  · intro k z bound x is given
    obtain ⟨w, receives⟩ := Link.exists_receives (b := a s) is rfl
    refine ⟨w, receives, fun result t ends => ?_, fun argument u ends result t => ?_⟩
    · obtain ⟨found, u, forces, _⟩ := Link.dataize_iff.mp ends
      obtain ⟨argument, u, ends, _⟩ := (Link.forces_joined_iff is computes receives given).mp forces
      exact ⟨argument, u, ends⟩
    · exact dataize_of_forces (Link.forces_joined is computes receives given ends)

/-- A choice between a number and an object that fails, an access to an array of them, and a
conjunction whose argument fails. -/
def State.withTrap : State :=
  let yes := State.initial.allocData (.bool true)
  let number := yes.2.allocData (.int 42)
  let trap := number.2.alloc (.table
    { form := "trap", slots := [(phi, .composite (.fail "sprung"))] })
  let choice := trap.2.alloc (.table ((MethodCall.choosing yes.1 true).table none
    (Function.update (fun _ => none) "t" (some number.1))))
  let items := choice.2.allocData (.array [number.1, number.1])
  let first := items.2.allocData (.int 0)
  let access := first.2.alloc (.table ((MethodCall.picking items.1 [number.1, number.1]).table none
    (Function.update (fun _ => none) "i" (some first.1))))
  let no := access.2.allocData (.bool false)
  (no.2.alloc (.table ((MethodCall.joining .and no.1 false).table none
    (Function.update (fun _ => none) "x" (some trap.1))))).2

/-- The choice and the access give the number although there is the trap besides, and the
conjunction fails although its receiver is false. -/
theorem trap_is_not_sprung :
    let c := Computations.ofExpressions
    let s := State.withTrap
    let bound : String → Option Ref := fun p => if p = "t" then some ⟨2⟩ else some ⟨3⟩
    (∃ t, c.Ends (.dataize ⟨4⟩) {}
      (s.put ⟨4⟩ (.table ((MethodCall.choosing ⟨1⟩ true).table none bound))) (.ok (.int 42)) t) ∧
    (∃ t, c.Ends (.dataize ⟨7⟩) {} (s.put ⟨5⟩ (.data (.array [⟨2⟩, ⟨3⟩]))) (.ok (.int 42)) t) ∧
    ∃ e t, c.Ends (.dataize ⟨9⟩) {} s (.error e) t ∧ e.kind = .general := by
  intro c s bound
  refine ⟨?_, ?_, ?_⟩
  · obtain ⟨choice, _, _⟩ := branches_are_not_forced {} s ⟨4⟩ ⟨1⟩
    obtain ⟨w₀, w, w', receives₀, receives, receives', _, alike⟩ :=
      choice true none (Function.update (fun _ => none) "t" (some ⟨2⟩)) bound rfl rfl rfl
    have calm (x : Ref) (given : Function.update (fun _ => none) "t" (some ⟨2⟩) "t" = some x) :
        x = ⟨2⟩ := by
      cases given
      rfl
    obtain ⟨alike, _⟩ := alike fun x given => by
      obtain rfl := calm x given
      exact ⟨State.not_shows_of_value (v := .int 42) rfl (by decide),
        detached_of_value (v := .int 42) (by rw [receives₀.heap]; rfl) (by rw [receives.heap]; rfl)
          (by rw [receives'.heap]; rfl)⟩
    have forces : (Link.taken ⟨4⟩ {} s).Forces c (.ok (.int 42)) _ := ⟨20, rfl⟩
    obtain ⟨found, u, _, same, _, _, ends⟩ := alike _ _ forces
    cases same
    exact ⟨_, (ends _ _).mpr (.value (.nothing rfl))⟩
  · obtain ⟨_, access, _⟩ := branches_are_not_forced {} s ⟨7⟩ ⟨5⟩
    have index {frame : Frame} {w u : State} {index : Except Failure Value}
        (zero : (w.heap.cell ⟨6⟩).kind = .data (.int 0))
        (ends : c.Ends (.dataize ⟨6⟩) frame w index u) :
        index = .ok (.int 0) ∧ u.heap = w.heap := by
      obtain ⟨same, tells⟩ := (dataize_data zero).mp ends
      exact ⟨same, tells.heap⟩
    obtain ⟨_, alike⟩ := access [⟨2⟩, ⟨2⟩] [⟨2⟩, ⟨3⟩]
      (Function.update (fun _ => none) "i" (some ⟨6⟩)) ⟨6⟩ (some ⟨2⟩) _ _ _ ⟨rfl, none, rfl⟩ rfl
      (by decide) (.nothing rfl) (.nothing rfl) (.nothing rfl)
    have heedless {veiled : Veil} {frame : Frame} {w : State} (seen : ¬ veiled ⟨6⟩)
        (zero : (w.heap.cell ⟨6⟩).kind = .data (.int 0)) :
        c.Heedless veiled (fun ask => ask (.dataize ⟨6⟩)) frame w :=
      heedless_dataize_of_value zero rfl seen
    have legible {frame : Frame} {w : State} (zero : (w.heap.cell ⟨6⟩).kind = .data (.int 0))
        (silent : frame.tracing = false) : c.Legible (fun ask => ask (.dataize ⟨6⟩)) frame w :=
      legible_dataize_of_value zero silent
    have unlisted : ¬ (s.put ⟨5⟩ (.data (.array [⟨2⟩]))).Shows ⟨5⟩ ⟨6⟩ :=
      State.not_shows_of_value (v := .int 0) rfl (by decide)
    obtain ⟨alike, _⟩ := alike
      ⟨heedless unlisted rfl, heedless unlisted rfl, legible rfl rfl, legible rfl rfl,
        legible rfl rfl⟩
      (fun _ u indexes => by
        obtain ⟨rfl, _⟩ := index rfl indexes.ends
        exact ⟨rfl, fun x picked => by cases picked; rfl⟩)
      fun x _ _ _ _ _ _ chosen indexes₀ indexes indexes' => by
        cases chosen
        have kept {frame : Frame} {w u : State} {found : Except Failure Value}
            (zero : (w.heap.cell ⟨6⟩).kind = .data (.int 0))
            (number : (w.heap.cell ⟨2⟩).kind = .data (.int 42))
            (ends : c.Ends (.dataize ⟨6⟩) frame w found u) :
            (u.heap.cell ⟨2⟩).kind = .data (.int 42) := by
          rw [(index zero ends).2, number]
        exact ⟨State.not_shows_of_value (v := .int 42) rfl (by decide),
          detached_of_value (kept rfl rfl indexes₀.ends) (kept rfl rfl indexes.ends)
            (kept rfl rfl indexes'.ends)⟩
    have forces : (Link.taken ⟨7⟩ {} s).Forces c (.ok (.int 42)) _ := ⟨20, rfl⟩
    obtain ⟨found, u, _, same, _, _, ends⟩ := alike _ _ forces
    cases same
    exact ⟨_, (ends _ _).mpr (.value (.nothing rfl))⟩
  · obtain ⟨_, _, junction⟩ := branches_are_not_forced {} s ⟨9⟩ ⟨8⟩
    obtain ⟨w, receives, _, decides⟩ := junction .and false
      (Function.update (fun _ => none) "x" (some ⟨3⟩)) ⟨3⟩ ⟨rfl, none, rfl⟩ rfl
    cases receives with
    | line traced => cases traced
    | nothing =>
        have fails := decides (.error _) _ ⟨20, rfl⟩
        exact ⟨_, _, (fails _ _).mpr (.failure (.passes rfl)), rfl⟩

/-- The expectation that the argument that is not chosen never has a bearing on the value. -/
def Computations.IgnoresOthers (c : Computations) : Prop :=
  ∀ (m r : Ref) (chooses : Bool) (bound bound' : String → Option Ref) (frame : Frame) (s t : State)
    (v : Value),
    let i := MethodCall.choosing r chooses
    (s.heap.cell r).kind = .data i.value → (s.heap.cell m).kind = .table (i.table none bound) →
      bound' (Link.branchOf chooses) = bound (Link.branchOf chooses) →
        c.Ends (.dataize m) frame s (.ok v) t →
          ∃ t', c.Ends (.dataize m) frame (s.put m (.table (i.table none bound'))) (.ok v) t'

/-- A choice whose argument asks the choice for its other argument. -/
def State.withMirror : State :=
  let yes := State.initial.allocData (.bool true)
  let first := yes.2.allocData (.int 42)
  let second := first.2.allocData (.int 43)
  let mirror := second.2.alloc (.table
    { form := "mirror", slots := [(phi, .composite (.get (.object ⟨5⟩) "f"))] })
  (mirror.2.alloc (.table ((MethodCall.choosing yes.1 true).table none
    fun p => if p = "t" then some mirror.1 else some first.1))).2

/-- The mirror shows the number that has not been chosen. -/
theorem mirror_shows_other_branch : ¬ Computations.ofExpressions.IgnoresOthers := by
  intro ignores
  have shows : Computations.ofExpressions.Ends (.dataize ⟨5⟩) {} State.withMirror
      (.ok (.int 42)) _ := ⟨20, rfl⟩
  obtain ⟨t, gives⟩ := ignores ⟨5⟩ ⟨1⟩ true _ (fun p => if p = "t" then some ⟨4⟩ else some ⟨3⟩) {}
    State.withMirror _ (.int 42) rfl rfl rfl shows
  have other : Computations.ofExpressions.Ends (.dataize ⟨5⟩) {}
      (State.withMirror.put ⟨5⟩ (.table ((MethodCall.choosing ⟨1⟩ true).table none
        fun p => if p = "t" then some ⟨4⟩ else some ⟨3⟩))) (.ok (.int 43)) _ := ⟨20, rfl⟩
  cases (gives.unique (Link.stepwise_ask _) other).1

end PhiCalculus
