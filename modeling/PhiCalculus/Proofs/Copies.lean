import PhiCalculus.Proofs.Binding
import PhiCalculus.Proofs.Homes
import PhiCalculus.Proofs.Queries

/-!
# Copies

A copy of an object is a new object with slots of its own: what was written is in them, what is
computed starts over, and the owner is not bound.  After that the two have nothing to do with each
other, and neither have the copies of a copy.

The reason is that every object is changed by itself only.  A single change concerns one object, and
the requests that may change an object by themselves are reads of its slots, looking behind it if it
is a view, and computations, which may do whatever operations do (`Request.leaves`).  So where an
object is not as it was after any deeds, one of them has written to that object, or in the midst of
one of them a slot of that object was read or a computation has written to it
(`changed_by_itself`).
-/

set_option autoImplicit false

namespace PhiCalculus

open PhiCalculus.Action

variable {α : Type} {c : Computations} {s t u : State} {o r y : Ref}

/-! ## Leaving an object alone -/

/-- The heap grows, and the object, if it exists, stays as it is. -/
structure State.Leaves (y : Ref) (s t : State) : Prop where
  grows : s.heap.Grows t.heap
  same : y.index < s.heap.size → t.heap.cell y = s.heap.cell y

namespace State.Leaves

theorem refl (s : State) : s.Leaves y s := ⟨Heap.Grows.refl _, fun _ => rfl⟩

theorem trans ⦃s t u : State⦄ (first : s.Leaves y t) (second : t.Leaves y u) : s.Leaves y u :=
  ⟨first.grows.trans second.grows, fun exist =>
    (second.same (Nat.lt_of_lt_of_le exist first.grows.size)).trans (first.same exist)⟩

/-- A change of another object. -/
theorem of_other {x : Action α} {frame : Frame} (edits : x.Moves State.Edits) (other : y ≠ r)
    (others : ∀ o, o ≠ r → (x frame s).state.heap.cell o = s.heap.cell o) :
    s.Leaves y (x frame s).state :=
  ⟨(edits frame s).changes.grows, fun _ => others y other⟩

end State.Leaves

theorem State.Creates.leaves ⦃s t : State⦄ (h : s.Creates t) : s.Leaves y t := by
  refine ⟨h.grows, fun exist => ?_⟩
  cases h with
  | observed heap => rw [heap]
  | alloc k => exact s.heap.cell_alloc_of_lt _ exist
  | data v => exact s.heap.cell_alloc_of_lt _ exist

/-- A value never changes. -/
theorem Cell.Grows.eq_of_isData {d d' : Cell} (grown : d.Grows d') (isData : d.isData = true) :
    d' = d := by
  obtain ⟨vertex, kind⟩ := grown
  obtain ⟨v, k⟩ := d
  obtain ⟨v', k'⟩ := d'
  cases k with
  | data value =>
      cases kind
      cases vertex
      rfl
  | table table => cases isData
  | view w result => cases isData

/-- To leave one object alone is a way to spare objects. -/
@[reducible] def Sparing.leaving (y : Ref) : Sparing where
  first := y.index + 1
  Spares := State.Leaves y
  trans := State.Leaves.trans
  grows _ _ h := h.grows
  creates := State.Creates.leaves
  disposes r s t disposable grown others := by
    refine ⟨grown, fun exist => ?_⟩
    by_cases same : y = r
    · subst same
      have isData := disposable.spare.resolve_left (Nat.not_succ_le_self y.index)
      exact (grown.cell y exist).eq_of_isData isData
    · exact others y same

/-- What a view stands for is found in a way that spares objects, if what is found is kept in that
way, and nothing needs to be spared as long as the first objects are not all there. -/
theorem Sparing.resolves (S : Sparing) {ask : Answerer} (moves : ask.Moves S.Spares)
    (settles : ask.Settles) (keeps : ∀ derived, (keepResult r derived).Moves S.Spares)
    (few : ∀ ⦃s t : State⦄, s.heap.Grows t.heap → s.heap.size < S.first → S.Spares s t) :
    (answerBy c ask (.resolve r)).Moves S.Spares := by
  intro frame s
  by_cases enough : S.first ≤ s.heap.size
  · exact (obeys_resolveView moves settles keeps _ s enough trivial).1
  · have grows : Answerer.Moves State.Grows ask := fun q frame s => S.grows (moves q frame s)
    have made : Stepwise State.Grows True fun ask => resolveView ask r :=
      (straight_resolveView r).stepwise.mono State.Changes.grows
    exact few (made.moves State.Grows.trans grows _ s) (Nat.lt_of_not_le enough)

/-! ## Requests -/

namespace Request

/-- The object may be changed by answering the request, apart from what other requests change. -/
def Concerns (y : Ref) : {α : Type} → Request α → Prop
  | _, .read (.slot r _) => r = y
  | _, .resolve r => r = y
  | _, .eval _ _ => True
  | _, _ => False

/-- What a slot computes is evaluated. -/
def Evaluates : {α : Type} → Request α → Prop
  | _, .eval _ _ => True
  | _, _ => False

/-- **A request that does not concern an object leaves it alone by itself.** -/
theorem leaves (q : Request α) (other : ¬ q.Concerns y) : q.Keeps c (State.Leaves y) := by
  intro ask moves settles
  have looks {β : Type} {x : Answerer → Action β} (made : Stepwise State.Creates True x) :
      (x ask).Moves (State.Leaves y) :=
    (made.mono State.Creates.leaves).moves State.Leaves.trans moves
  cases q with
  | find r name => exact looks (.hold [r] (straight_findPlace r name).stepwise)
  | dataize r => exact looks (.hold [r] (stepwise_dataizeObject r))
  | eval e self => exact absurd trivial other
  | read p =>
      have reads : Stepwise (State.Leaves y) True fun ask => readPlace ask p := by
        refine Straight.stepwise (straight_readPlace_of State.Creates.leaves
          fun r name computed here frame s => ?_)
        subst here
        have kept : (keep r name computed frame s).state = s ∨ ∃ new, _ = _ := state_keep computed
        refine ⟨((acts_keep r name computed).moves frame s).grows, fun _ => ?_⟩
        rcases kept with same | ⟨new, set⟩
        · rw [same]
        · rw [set]
          exact s.heap.cell_update_of_ne (Ne.symm other) _
      exact fun frame s => reads.moves State.Leaves.trans moves _ s
  | resolve r =>
      have keeps (derived : Ref) : (keepResult r derived).Moves (State.Leaves y) := by
        intro frame s
        have kept : (keepResult r derived frame s).state = s ∨ _ = _ := state_keepResult derived
        refine ⟨((acts_keepResult r derived).moves frame s).grows, fun _ => ?_⟩
        rcases kept with same | set
        · rw [same]
        · rw [set]
          exact s.heap.cell_update_of_ne (Ne.symm other) _
      exact (Sparing.leaving y).resolves moves settles keeps fun _ _ grown few =>
        ⟨grown, fun exist => absurd exist (Nat.not_lt_of_le (Nat.le_of_lt_succ few))⟩

end Request

/-- A view apart, an object is not changed by looking behind it. -/
theorem Query.Itself.reads_or_evaluates {q : Query} (itself : q.Itself c (State.Leaves y))
    (concerns : q.request.Concerns y) (concrete : (q.state.heap.cell y).isView = false) :
    (∃ name, q.request.Reads y name) ∨ q.request.Evaluates := by
  obtain ⟨request, steps, frame, s⟩ := q
  cases request with
  | read p =>
      cases p with
      | slot r name => exact .inl ⟨name, concerns, rfl⟩
      | _ => exact concerns.elim
  | eval e self => exact .inr trivial
  | resolve r =>
      obtain rfl : r = y := concerns
      have resolved : resolveView (answered c steps) r (frame.holding [r]) s = .answer r s :=
        resolveView_of_concrete concrete
      have still : (Query.outcome c ⟨.resolve r, steps, frame, s⟩).state = s :=
        congrArg Outcome.state resolved
      refine absurd ?_ itself.breaks
      rw [still]
      exact .refl s
  | _ => exact concerns.elim

/-- In the midst of the run a slot of the object is read or a slot computation is evaluated, and
that by itself changes the object. -/
def Computations.Alters (c : Computations) (x : Answerer → Action α) (steps : Nat) (frame : Frame)
    (s : State) (y : Ref) : Prop :=
  ∃ q, c.Meets x steps frame s q ∧ q.Itself c (State.Leaves y) ∧
    ((∃ name, q.request.Reads y name) ∨ q.request.Evaluates)

/-- **What a run does not change by itself it changes in the midst.** -/
theorem Computations.alters_of_changed {x : Answerer → Action α} {steps : Nat} {frame : Frame}
    (made : Stepwise State.Changes True x)
    (leaves : ∀ ask : Answerer, ask.Moves (State.Leaves y) → ask.Settles →
      ask.Echoes (answered c steps) → s.Leaves y (x ask frame s).state)
    (exist : y.index < s.heap.size) (concrete : (s.heap.cell y).isView = false)
    (changed : (x (answered c steps) frame s).state.heap.cell y ≠ s.heap.cell y) :
    c.Alters x steps frame s y := by
  have broken : ¬ s.Leaves y (x (answered c steps) frame s).state :=
    fun leaves => changed (leaves.same exist)
  obtain ⟨q, asks, breaks⟩ := Computations.asks_break made State.Leaves.refl leaves broken
  obtain ⟨q', within, concerns, itself⟩ :=
    q.exists_itself State.Leaves.refl (fun p other => p.leaves other) breaks
  have meets : c.Meets x steps frame s q' := ⟨q, asks, within⟩
  have grown : s.Grows q'.state :=
    meets.starts State.Grows.refl State.Grows.trans State.Changes.grows made
  exact ⟨q', meets, itself, itself.reads_or_evaluates concerns
    (((grown.cell y exist).isView).trans concrete)⟩

/-! ## Operations -/

/-- The operation binds the owner of the object, through any views of it, or writes at a place of
it. -/
def Operation.WritesTo (c : Computations) (y : Ref) (steps : Nat) (frame : Frame) (s : State) :
    Operation α → Prop
  | .moveTo r _ => ∃ t, settle (answered c steps) r frame s = .answer y t
  | .put p _ => p.object = y
  | _ => False

/-- The first one settles where the second one does. -/
theorem Answerer.Echoes.settle {ask ask' : Answerer} (echoes : ask.Echoes ask') {frame : Frame}
    (h : settle ask r frame s = .answer o t) : settle ask' r frame s = .answer o t := by
  cases isView : (s.heap.cell r).isView with
  | false => exact (settle_of_concrete isView).trans ((settle_of_concrete isView).symm.trans h)
  | true =>
      rw [settle_of_view isView] at h ⊢
      exact echoes _ _ _ _ _ h

/-- **An operation that does not write to an object leaves it alone by itself.** -/
theorem Operation.leaves (op : Operation α) {steps : Nat} {frame : Frame}
    (other : ¬ op.WritesTo c y steps frame s) {ask : Answerer}
    (moves : ask.Moves (State.Leaves y)) (echoes : ask.Echoes (answered c steps)) :
    s.Leaves y (op.run ask frame s).state := by
  have looks {β : Type} {x : Answerer → Action β} (made : Stepwise State.Creates True x) :
      (x ask).Moves (State.Leaves y) :=
    (made.mono State.Creates.leaves).moves State.Leaves.trans moves
  cases op with
  | moveTo r target =>
      have settles := looks (straight_settle r).stepwise frame s
      show s.Leaves y ((settle ask r >>= fun o => ownConcrete o target) frame s).state
      cases ending : settle ask r frame s with
      | answer o t =>
          rw [bind_of_answer ending]
          rw [ending] at settles
          have ne : y ≠ o := by
            rintro rfl
            exact other ⟨t, echoes.settle ending⟩
          exact settles.trans (.of_other (acts_ownConcrete o target).moves ne fun _ other =>
            cell_ownConcrete_of_ne other target)
      | failure f t =>
          rw [bind_of_failure ending]
          rwa [ending] at settles
      | @unfinished t =>
          rw [bind_of_unfinished ending]
          rwa [ending] at settles
  | put p value =>
      have ne : y ≠ p.object := Ne.symm other
      have made : Stepwise (State.Leaves y) True fun ask => write ask p value :=
        Straight.stepwise <| straight_write_of State.Creates.leaves
          (fun owner _ _ => .of_other (acts_ownConcrete _ owner).moves ne fun _ other =>
            cell_ownConcrete_of_ne other owner)
          (fun name _ _ => .of_other (acts_fill _ name value).moves ne fun _ other =>
            cell_fill_of_ne other value)
          fun name items _ _ => .of_other (acts_append _ name items).moves ne fun _ other =>
            cell_append_of_ne other items
      exact made.moves State.Leaves.trans moves frame s
  | _ => exact looks (Operation.creates _ id) frame s

/-! ## Deeds -/

/-- An operation that a client performs, somewhere and with a number of steps that may nest. -/
structure Deed where
  {α : Type}
  operation : Operation α
  steps : Nat
  frame : Frame

namespace Deed

/-- What the deed does, by means of answers to requests. -/
def run (d : Deed) (ask : Answerer) : Action d.α := d.operation.run ask

/-- The state after the deed, whether it succeeds or fails. -/
def after (c : Computations) (s : State) (d : Deed) : State :=
  (d.run (answered c d.steps) d.frame s).state

/-- The deed concerns the object itself: it writes to the object, or alters it in its midst. -/
def Changes (c : Computations) (y : Ref) (s : State) (d : Deed) : Prop :=
  d.operation.WritesTo c y d.steps d.frame s ∨ c.Alters d.run d.steps d.frame s y

theorem later (d : Deed) (s : State) : Later c s (d.after c s) :=
  .performed (Performs.operation d.operation) (fun _ => false) d.steps d.frame s

/-- **What a deed changes it concerns.** -/
theorem changes (d : Deed) (exist : y.index < s.heap.size)
    (concrete : (s.heap.cell y).isView = false)
    (changed : (d.after c s).heap.cell y ≠ s.heap.cell y) : d.Changes c y s := by
  by_cases writes : d.operation.WritesTo c y d.steps d.frame s
  · exact .inl writes
  · exact .inr (Computations.alters_of_changed d.operation.stepwise
      (fun ask moves _ echoes => d.operation.leaves writes moves echoes) exist concrete changed)

/-- Deeds lead to later states. -/
theorem later_foldl (deeds : List Deed) (s : State) : Later c s (deeds.foldl (Deed.after c) s) := by
  induction deeds generalizing s with
  | nil => exact .refl s
  | cons d rest ih => exact (d.later s).trans (ih _)

end Deed

/-- **An object is changed by itself only.**  If an object is not as it was after some deeds, then
one of them concerns it. -/
theorem changed_by_itself (deeds : List Deed) (exist : y.index < s.heap.size)
    (concrete : (s.heap.cell y).isView = false)
    (changed : (deeds.foldl (Deed.after c) s).heap.cell y ≠ s.heap.cell y) :
    ∃ before d after, deeds = before ++ d :: after ∧
      d.Changes c y (before.foldl (Deed.after c) s) := by
  induction deeds generalizing s with
  | nil => exact absurd rfl changed
  | cons d rest ih =>
      by_cases same : (d.after c s).heap.cell y = s.heap.cell y
      · have grown := (d.later (c := c) s).grows
        rw [List.foldl_cons, ← same] at changed
        obtain ⟨before, d', after, rfl, changes⟩ :=
          ih (Nat.lt_of_lt_of_le exist grown.size) (same ▸ concrete) changed
        exact ⟨d :: before, d', after, rfl, changes⟩
      · exact ⟨[], d, rest, rfl, d.changes exist concrete same⟩

/-! ## Copying -/

/-- From the one state to the other, a copy of an object was made, with the given owner. -/
structure State.Copied (s : State) (o : Ref) (owner : Option Ref) (copy : Ref) (t : State) :
    Prop where
  new : copy.index = s.heap.size
  size : t.heap.size = s.heap.size + 1
  others : ∀ r : Ref, r.index < s.heap.size → t.heap.cell r = s.heap.cell r
  concrete : (t.heap.cell copy).isView = false
  plain : (t.heap.cell copy).isData = false
  form : (t.heap.cell copy).form = (s.heap.cell o).form
  home : (t.heap.cell copy).home? = (s.heap.cell o).home?
  owned : (t.heap.cell copy).owner? = owner
  names : (t.heap.cell copy).slots.names = (s.heap.cell o).slots.names
  free : ∀ {name content}, s.heap.slot? o name = some (.free content) →
    t.heap.slot? copy name = some (.free content)
  vararg : ∀ {name items}, s.heap.slot? o name = some (.vararg items) →
    t.heap.slot? copy name = some (.vararg items)
  once : ∀ {name e cache}, s.heap.slot? o name = some (.once e cache) →
    t.heap.slot? copy name = some (.once e none)
  composite : ∀ {name e}, s.heap.slot? o name = some (.composite e) →
    t.heap.slot? copy name = some (.composite e)

/-- A new table like that of the object, with computed slots starting over, is a copy of it. -/
theorem State.copied_alloc {table : Table} (kind : (s.heap.cell o).kind = .table table)
    (owner : Option Ref) :
    let made := s.alloc (.table { table with owner := owner, slots := table.slots.copy })
    s.Copied o owner made.1 made.2 := by
  intro made
  have new : made.2.heap.cell made.1 = _ := s.heap.cell_alloc_self _
  have slot {name : String} {slot : Slot} (found : s.heap.slot? o name = some slot) :
      made.2.heap.slot? made.1 name = some slot.copy := by
    rw [Heap.slot?, Cell.slots, kind] at found
    rw [Heap.slot?, new]
    exact find?_copy_of_found found
  constructor
  case new => rfl
  case size => exact s.heap.size_alloc _
  case others => exact fun r exist => s.heap.cell_alloc_of_lt _ exist
  case concrete => rw [new, Cell.isView]
  case plain => rw [new]; rfl
  case form => rw [new, Cell.form, Cell.form, kind]
  case home => rw [new, Cell.home?, Cell.home?, kind]
  case owned => rw [new, Cell.owner?]
  case names =>
    rw [new, Cell.slots, Cell.slots, kind]
    exact Slots.names_copy
  all_goals exact slot

theorem State.Copied.exist {owner : Option Ref} {copy : Ref} (copied : s.Copied o owner copy t) :
    copy.index < t.heap.size := by
  rw [copied.size, copied.new]
  exact Nat.lt_succ_self _

/-- In later states vertices are apart still. -/
theorem Later.distinct (later : Later c s t) (distinct : s.Distinct) : t.Distinct :=
  later.moves (R := fun s t => s.Distinct → t.Distinct) (fun _ => id)
    (fun _ _ _ first second => second ∘ first) (fun _ _ changes => changes.distinct) distinct

/-- A copy has a vertex that no other object has, however many are added later. -/
theorem State.Copied.apart {owner : Option Ref} {copy : Ref} (copied : s.Copied o owner copy t)
    (distinct : t.Distinct) (later : Later c t u) (exist : r.index < u.heap.size)
    (other : r ≠ copy) : u.heap.vertex r ≠ u.heap.vertex copy := by
  intro same
  have grown := later.grows
  have there := Nat.lt_of_lt_of_le copied.exist grown.size
  rcases (later.distinct distinct).unique exist there same with same | ⟨_, v, _, value, _⟩
  · exact other same
  · have isData : (u.heap.cell copy).isData = true := by rw [Cell.isData, value]; rfl
    rw [(grown.cell copy copied.exist).isData, copied.plain] at isData
    cases isData

/-- **Copies are independent.**  Wherever a client gets and whatever is done from then on, a copy of
an object that is neither a value nor a view is a new object of the same form with the same home and
the same names in the same order.  It has the same content in its free slots and the same items in
those that take any number of them; what its slots compute is not computed yet, and it has no owner.
Its vertex is one that no other object ever has.  A value is its own copy, and the copy of a view is
a copy of the object that the view stands for, if there is one.

From then on any deeds may follow, on the object, on the copy, on copies of these and on anything
else.  If some object, such as the one that was copied or the copy, is not as it was after them,
then one of them has written to that very object, or a slot of that very object was read in the
midst of it and filled, or else a computation in the midst of it has written to the object. -/
theorem copies_are_independent {m : Moment} (began : Moment.first.Before m)
    (reached : Later c m.state s) (o : Ref) :
    (∀ {v}, (s.heap.cell o).value? = some v → ∀ (ask : Answerer) frame,
      copyOf ask o frame s = .answer o s) ∧
    ((s.heap.cell o).isView = true → ∀ steps frame,
      (∀ {x t}, answered c steps (.resolve o) frame s = .answer x t →
        (t.heap.cell x).isView = false ∧
          copyOf (answered c steps) o frame s = copyOf (answered c steps) x frame t) ∧
      ∀ {f t}, answered c steps (.resolve o) frame s = .failure f t →
        copyOf (answered c steps) o frame s = .failure f t) ∧
    ((s.heap.cell o).isView = false → (s.heap.cell o).isData = false → ∃ copy t,
      (∀ (ask : Answerer) frame, copyOf ask o frame s = .answer copy t) ∧ s.Copied o none copy t ∧
        ∀ {u}, Later c t u → ∀ r : Ref, r.index < u.heap.size → r ≠ copy →
          u.heap.vertex r ≠ u.heap.vertex copy) ∧
    ∀ {u}, Later c s u → ∀ y : Ref, y.index < u.heap.size → (u.heap.cell y).isView = false →
      ∀ deeds : List Deed, (deeds.foldl (Deed.after c) u).heap.cell y ≠ u.heap.cell y →
        ∃ before d after, deeds = before ++ d :: after ∧
          d.Changes c y (before.foldl (Deed.after c) u) := by
  refine ⟨fun {v} value ask frame => ?_, fun isView steps frame => ⟨fun {x t} resolved => ?_,
    fun {f t} failed => ?_⟩, fun concrete table => ?_,
    fun later y exist concrete deeds changed => changed_by_itself deeds exist concrete changed⟩
  · exact copyOf_data (Heap.kind_of_value? value)
  · have concrete := settles_answered c steps resolved
    have settled : settle (answered c steps) o frame s = .answer x t := by
      rwa [settle_of_view isView]
    exact ⟨concrete, copyOf_of_settled settled concrete⟩
  · have unsettled : settle (answered c steps) o frame s = .failure f t := by
      rwa [settle_of_view isView]
    rw [copyOf, bind_of_failure unsettled]
  · cases kind : (s.heap.cell o).kind with
    | data v => simp [Cell.isData, Cell.value?, kind] at table
    | view v result => simp [Cell.isView, kind] at concrete
    | table table =>
        have made : s.Copied o none (s.copyTable table).1 (s.copyTable table).2 :=
          State.copied_alloc kind none
        have creates : s.Creates (s.copyTable table).2 :=
          .alloc s (.table _) fun _ same => by cases same
        have distinct : (s.copyTable table).2.Distinct :=
          creates.changes.distinct (reached.distinct began.distinct)
        exact ⟨_, _, fun _ _ => copyOf_table kind, made,
          fun later r exist other => made.apart distinct later exist other⟩

/-- A copy of an object that was built in a scope is in that scope, and is another object. -/
theorem child_has_an_independent_copy : ∃ copy t,
    copyOf (answered .ofExpressions 1) ⟨1⟩ {} Moment.withScope.state = .answer copy t ∧
      (t.heap.cell copy).home? = some ⟨0⟩ ∧ t.heap.vertex ⟨1⟩ ≠ t.heap.vertex copy := by
  have reached : Later .ofExpressions Moment.withScope.state Moment.withScope.state := .refl _
  obtain ⟨copy, t, copies, copied, apart⟩ :=
    (copies_are_independent Moment.reached_withScope.before reached ⟨1⟩).2.2.1 rfl rfl
  have exist : (⟨1⟩ : Ref).index < Moment.withScope.state.heap.size := by decide
  have other : (⟨1⟩ : Ref) ≠ copy := by
    rintro rfl
    exact absurd copied.new (Nat.ne_of_lt exist)
  have exist' : (⟨1⟩ : Ref).index < t.heap.size := copied.size ▸ Nat.lt_succ_of_lt exist
  exact ⟨copy, t, copies _ _, copied.home, apart (.refl t) ⟨1⟩ exist' other⟩

end PhiCalculus
