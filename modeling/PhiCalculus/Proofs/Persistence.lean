import PhiCalculus.Proofs.Concrete
import PhiCalculus.Proofs.Steps

/-!
# Objects persist while others are evaluated

Answering a request writes to no object that existed before.  Of an object that is there when the
request is made, only the caches of its slots and the result of a view can be filled, and only if
they were empty; its owner, the content of its free slots and the items of its other slots stay.

Looking things up, dataizing and computing expressions only add objects and fill caches.  Binding an
argument, owning and attempts write, but what they write to is a copy that they have made
themselves, or a value, on which writing has no effect.  An object is `Disposable` in a run that
started with a heap of `n` objects if it is of this kind; the conditions of actions that write are
stated with it (`Action.Obeys`), for any way to spare objects (`Sparing`), and the whole follows by
induction on the nesting of requests (`sound_answerWithin`).
-/

set_option autoImplicit false

namespace PhiCalculus

open PhiCalculus.Action

/-! ## Objects without what was computed for them -/

/-- An object without the caches of its slots and the result of a view. -/
def Cell.bare (c : Cell) : Kind :=
  match c.kind with
  | .table t => .table { t with slots := t.slots.copy }
  | .data v => .data v
  | .view v _ => .view v none

namespace Slots

theorem find?_copy (slots : Slots) (name : String) :
    slots.copy.find? name = (slots.find? name).map Slot.copy := by
  induction slots with
  | nil => rfl
  | cons a rest ih =>
      obtain ⟨n, s⟩ := a
      simp only [copy, List.map_cons, find?_cons] at ih ⊢
      split
      · rfl
      · exact ih

/-- Filling a cache does not show in a copy. -/
theorem copy_set_once {slots : Slots} {name : String} {origin : Expr} {cache : Option Ref}
    (found : slots.find? name = some (.once origin cache)) (computed : Option Ref) :
    (slots.set name (.once origin computed)).copy = slots.copy := by
  induction slots with
  | nil => rfl
  | cons a rest ih =>
      obtain ⟨n, s⟩ := a
      rw [find?_cons] at found
      simp only [Slots.set]
      by_cases same : n = name
      · subst same
        simp only [beq_self_eq_true, if_true, Option.some.injEq] at found ⊢
        subst found
        rfl
      · have other : ¬ (name == n) = true := fun h => same (beq_iff_eq.mp h).symm
        rw [if_neg other] at found
        have unchanged := ih found
        simp only [copy, beq_iff_eq, same, if_false, List.map_cons] at unchanged ⊢
        rw [unchanged]

end Slots

/-! ## Sparing the first objects -/

/-- The heap grows, and those of the first `n` objects that exist gain nothing but caches and
results. -/
structure State.Spares (n : Nat) (s t : State) : Prop where
  grows : s.heap.Grows t.heap
  bare : ∀ r : Ref, r.index < n → r.index < s.heap.size →
    (t.heap.cell r).bare = (s.heap.cell r).bare

namespace State.Spares

variable {n : Nat} {s t u : State}

theorem refl (s : State) : s.Spares n s := ⟨Heap.Grows.refl _, fun _ _ _ => rfl⟩

theorem trans ⦃s t u : State⦄ (first : s.Spares n t) (second : t.Spares n u) : s.Spares n u := by
  refine ⟨first.grows.trans second.grows, fun r early old => ?_⟩
  have still : r.index < t.heap.size := Nat.lt_of_lt_of_le old first.grows.size
  exact (second.bare r early still).trans (first.bare r early old)

/-- What spares all objects that exist spares the first of any number. -/
theorem of_size (h : s.Spares s.heap.size t) : s.Spares n t :=
  ⟨h.grows, fun r _ old => h.bare r old old⟩

/-- Objects that stay as they are are spared. -/
theorem of_cells (grows : s.heap.Grows t.heap)
    (same : ∀ r : Ref, r.index < s.heap.size → t.heap.cell r = s.heap.cell r) : s.Spares n t :=
  ⟨grows, fun r _ old => by rw [same r old]⟩

end State.Spares

/-- Adding an object spares those that are there. -/
theorem State.Creates.spares {n : Nat} ⦃s t : State⦄ (h : s.Creates t) : s.Spares n t := by
  refine .of_cells h.grows fun r old => ?_
  cases h with
  | observed heap => rw [heap]
  | alloc k => exact s.heap.cell_alloc_of_lt _ old
  | data v => exact s.heap.cell_alloc_of_lt _ old

/-- Filling a cache or the result of a view spares all objects. -/
theorem State.Fills.spares {n : Nat} ⦃s t : State⦄ (h : s.Fills t) : s.Spares n t := by
  refine ⟨h.grows, fun r _ old => ?_⟩
  cases h with
  | creates h => exact (h.spares (n := s.heap.size)).bare r old old
  | @cache o name origin computed found =>
      by_cases same : r = o
      · subst same
        rw [Heap.setSlot, s.heap.cell_update_self old]
        rw [Heap.slot?, Cell.slots] at found
        simp only [Cell.bare]
        cases kind : (s.heap.cell r).kind with
        | table t =>
            rw [kind] at found
            simp only [Slots.copy_set_once found]
        | data v => rfl
        | view v result => rfl
      · rw [Heap.setSlot, s.heap.cell_update_of_ne same]
  | @result o derived empty =>
      by_cases same : r = o
      · subst same
        rw [Heap.setResult, s.heap.cell_update_self old]
        simp only [Cell.bare]
        cases (s.heap.cell r).kind <;> rfl
      · rw [Heap.setResult, s.heap.cell_update_of_ne same]

/-! ## Objects that may be written -/

/-- The object is no view, and is a value or not one of the first `n`.  Writing to it changes none
of these. -/
structure Disposable (n : Nat) (r : Ref) (s : State) : Prop where
  exist : r.index < s.heap.size
  concrete : (s.heap.cell r).isView = false
  spare : n ≤ r.index ∨ (s.heap.cell r).isData = true

namespace Disposable

variable {n : Nat} {r : Ref} {s t : State}

theorem grows (h : Disposable n r s) (grown : s.heap.Grows t.heap) : Disposable n r t where
  exist := Nat.lt_of_lt_of_le h.exist grown.size
  concrete := (grown.cell r h.exist).isView.trans h.concrete
  spare := by
    rw [(grown.cell r h.exist).isData]
    exact h.spare

/-- A change that leaves all other objects as they are spares the first `n`. -/
theorem spares (h : Disposable n r s) (grown : s.heap.Grows t.heap)
    (others : ∀ o, o ≠ r → t.heap.cell o = s.heap.cell o) : s.Spares n t := by
  refine ⟨grown, fun o early old => ?_⟩
  by_cases same : o = r
  · subst same
    have isData := h.spare.resolve_left (Nat.not_le_of_lt early)
    have kept := (grown.cell o old).kind
    simp only [Cell.isData, Cell.value?, Cell.bare] at isData ⊢
    cases kind : (s.heap.cell o).kind with
    | data v =>
        rw [kind] at kept
        generalize (t.heap.cell o).kind = k at kept ⊢
        cases kept
        rfl
    | table table => simp [kind] at isData
    | view v result => simp [kind] at isData
  · rw [others o same]

end Disposable

/-! ## Ways to spare -/

/-- A way in which the first objects are spared: along a preorder on states that allows to add
objects, and to change an object that is disposable while all others stay as they are. -/
structure Sparing where
  first : Nat
  Spares : State → State → Prop
  trans : ∀ ⦃s t u : State⦄, Spares s t → Spares t u → Spares s u
  grows : ∀ ⦃s t : State⦄, Spares s t → s.heap.Grows t.heap
  creates : ∀ ⦃s t : State⦄, s.Creates t → Spares s t
  disposes : ∀ ⦃r : Ref⦄ ⦃s t : State⦄, Disposable first r s → s.heap.Grows t.heap →
    (∀ o, o ≠ r → t.heap.cell o = s.heap.cell o) → Spares s t

namespace Sparing

theorem refl (S : Sparing) (s : State) : S.Spares s s := S.creates (.refl s)

/-- The first objects gain nothing but caches and results. -/
@[reducible] def bare (n : Nat) : Sparing where
  first := n
  Spares := State.Spares n
  trans := State.Spares.trans
  grows _ _ h := h.grows
  creates := State.Creates.spares
  disposes _ _ _ disposable grown others := disposable.spares grown others

end Sparing

/-! ## Conditions of actions -/

namespace Action

variable {α β : Type} {S : Sparing}

/-- In a heap with the first objects and under the condition `pre`, the action spares these, and the
condition `post` holds of its answer. -/
def Obeys (S : Sparing) (pre : State → Prop) (x : Action α) (post : α → State → Prop) : Prop :=
  ∀ frame s, S.first ≤ s.heap.size → pre s →
    S.Spares s (x frame s).state ∧ ∀ a t, x frame s = .answer a t → post a t

theorem Obeys.bind {pre : State → Prop} {x : Action α} {mid : α → State → Prop} {f : α → Action β}
    {post : β → State → Prop} (first : Obeys S pre x mid)
    (rest : ∀ a, Obeys S (mid a) (f a) post) : Obeys S pre (x >>= f) post := by
  intro frame s enough holds
  obtain ⟨spared, reached⟩ := first frame s enough holds
  cases ending : x frame s with
  | answer a t =>
      rw [bind_of_answer ending]
      rw [ending] at spared
      have enough' := Nat.le_trans enough (S.grows spared).size
      obtain ⟨spared', reached'⟩ := rest a frame t enough' (reached a t ending)
      exact ⟨S.trans spared spared', reached'⟩
  | failure e t =>
      rw [bind_of_failure ending]
      rw [ending] at spared
      exact ⟨spared, fun _ _ h => by cases h⟩
  | @unfinished t =>
      rw [bind_of_unfinished ending]
      rw [ending] at spared
      exact ⟨spared, fun _ _ h => by cases h⟩

theorem Obeys.pure {pre : State → Prop} {a : α} {post : α → State → Prop}
    (h : ∀ s, pre s → post a s) : Obeys S pre (pure a) post := by
  intro frame s _ holds
  refine ⟨S.refl s, fun b t ending => ?_⟩
  cases ending
  exact h s holds

theorem Obeys.hold {pre : State → Prop} {x : Action α} {post : α → State → Prop} (refs : List Ref)
    (h : Obeys S pre x post) : Obeys S pre (hold refs x) post :=
  fun _ s => h _ s

/-- What always spares the first objects keeps an object disposable. -/
theorem Obeys.of_moves {x : Action α} (moves : x.Moves S.Spares) (r : Ref) :
    Obeys S (Disposable S.first r) x fun _ => Disposable S.first r := by
  intro frame s _ disposable
  have spared := moves frame s
  refine ⟨spared, fun a t ending => ?_⟩
  rw [ending] at spared
  exact disposable.grows (S.grows spared)

theorem Obeys.weaken {pre pre' : State → Prop} {x : Action α} {post post' : α → State → Prop}
    (h : Obeys S pre x post) (sooner : ∀ s, pre' s → pre s) (later : ∀ a s, post a s → post' a s) :
    Obeys S pre' x post' := by
  intro frame s enough holds
  obtain ⟨spared, reached⟩ := h frame s enough (sooner s holds)
  exact ⟨spared, fun a t ending => later a t (reached a t ending)⟩

/-- What always spares the first objects and needs no condition obeys. -/
theorem Obeys.of_moves_only {x : Action α} (moves : x.Moves S.Spares) :
    Obeys S (fun _ => True) x fun _ _ => True :=
  fun frame s _ _ => ⟨moves frame s, fun _ _ _ => trivial⟩

/-- What spares the first `n` objects for every `n` that there are spares them for any `n`. -/
theorem Obeys.moves {x : Action α} {post : Nat → α → State → Prop}
    (h : ∀ n, Obeys (.bare n) (fun _ => True) x (post n)) (n : Nat) : x.Moves (State.Spares n) :=
  fun frame s => State.Spares.of_size (h s.heap.size frame s (Nat.le_refl _) trivial).1

end Action

section Operations

variable {S : Sparing} {ask : Answerer} (asked : Answerer.Moves S.Spares ask)
  (settles : ask.Settles)
include asked

/-- What is made of requests and creations spares the first objects. -/
theorem spares_of_creates {α : Type} {x : Answerer → Action α}
    (h : Stepwise State.Creates True x) : (x ask).Moves S.Spares :=
  (h.mono S.creates).moves S.trans asked

/-- What is made of requests and creations obeys without a condition. -/
theorem obeys_of_creates {α : Type} {x : Answerer → Action α}
    (h : Stepwise State.Creates True x) : Obeys S (fun _ => True) (x ask) fun _ _ => True :=
  .of_moves_only (spares_of_creates asked h)

/-! ## Operations that write -/

include settles in
/-- A copy is a new object or a value. -/
theorem obeys_copyOf (r : Ref) :
    Obeys S (fun _ => True) (copyOf ask r) fun copy => Disposable S.first copy := by
  intro frame s enough _
  refine ⟨spares_of_creates asked (straight_copyOf r).stepwise frame s, fun copy u h => ?_⟩
  obtain ⟨o, t, settled, copied⟩ := bind_eq_answer.mp h
  have concrete := settles.settle settled
  have spared := spares_of_creates asked (straight_settle r).stepwise frame s
  rw [settled] at spared
  rw [hold_apply] at copied
  cases kind : (t.heap.cell o).kind with
  | table table =>
      cases (copyConcrete_table kind).symm.trans copied
      have made : (t.copyTable table).2.heap.cell (t.copyTable table).1 = _ :=
        t.heap.cell_alloc_self _
      refine ⟨?_, ?_, .inl (Nat.le_trans enough (S.grows spared).size)⟩
      · exact Nat.lt_of_lt_of_eq (Nat.lt_succ_self _) (t.heap.size_alloc _).symm
      · rw [made]
        rfl
  | data v =>
      have isData : (t.heap.cell o).isData = true := by
        rw [Cell.isData, Cell.value?, kind]
        rfl
      cases (copyConcrete_data kind).symm.trans copied
      exact ⟨Heap.lt_size_of_isData isData, concrete, .inr isData⟩
  | view v result => simp [Cell.isView, kind] at concrete

omit asked in
/-- An action on one disposable object obeys. -/
theorem obeys_of_edits {α : Type} {r : Ref} {x : Action α} (edits : x.Moves State.Edits)
    (others : ∀ frame s o, o ≠ r → (x frame s).state.heap.cell o = s.heap.cell o) :
    Obeys S (Disposable S.first r) x fun _ => Disposable S.first r := by
  intro frame s _ disposable
  have grown := (edits frame s).changes.grows
  refine ⟨S.disposes disposable grown (others frame s), fun a t h => ?_⟩
  rw [h] at grown
  exact disposable.grows grown

omit asked in
theorem obeys_ownConcrete (r owner : Ref) :
    Obeys S (Disposable S.first r) (ownConcrete r owner) fun _ => Disposable S.first r :=
  obeys_of_edits (acts_ownConcrete r owner).moves fun _ _ _ other =>
    cell_ownConcrete_of_ne other owner

omit asked in
/-- Owning an object that may be written. -/
theorem obeys_moveTo (r owner : Ref) :
    Obeys S (Disposable S.first r) (moveTo ask r owner) fun _ => Disposable S.first r := by
  intro frame s enough disposable
  rw [moveTo_of_concrete disposable.concrete owner]
  exact obeys_ownConcrete r owner frame s enough disposable

omit asked in
theorem obeys_fill (r : Ref) (name : String) (value : Ref) :
    Obeys S (Disposable S.first r) (fill r name value) fun _ => Disposable S.first r :=
  obeys_of_edits (acts_fill r name value).moves fun _ _ _ other => cell_fill_of_ne other value

omit asked in
theorem obeys_append (r : Ref) (name : String) (items : List Ref) :
    Obeys S (Disposable S.first r) (append r name items) fun _ => Disposable S.first r :=
  obeys_of_edits (acts_append r name items).moves fun _ _ _ other => cell_append_of_ne other items

/-- Writing a slot of an object that may be written. -/
theorem obeys_write (r : Ref) (name : String) (value : Ref) :
    Obeys S (Disposable S.first r) (write ask (.slot r name) value)
      fun _ => Disposable S.first r := by
  have look : (asks fun s => s.heap.slot? r name).Moves S.Spares := fun _ s => S.refl s
  refine (Obeys.of_moves look r).bind fun slot => ?_
  have spread : Obeys S (Disposable S.first r) (spread ask name value)
      fun _ => Disposable S.first r :=
    .of_moves (spares_of_creates asked (straight_spread name value).stepwise) r
  rcases slot with _ | _ | _ | _ | _
  case some.vararg => exact spread.bind fun items => obeys_append r name items
  all_goals exact obeys_fill r name value

/-- A key leads to a slot of the object itself. -/
theorem obeys_placeOf (r : Ref) (key : Key) :
    Obeys S (Disposable S.first r) (placeOf ask r key) fun p s =>
      Disposable S.first r s ∧ ∃ name, p = .slot r name := by
  intro frame s enough disposable
  have moves := spares_of_creates asked (straight_placeOf r key).stepwise frame s
  refine ⟨moves, fun p t h => ?_⟩
  rw [h] at moves
  refine ⟨disposable.grows (S.grows moves), ?_⟩
  exact placeOf_concrete disposable.concrete h

/-! ## Views and attempts -/

include settles

/-- A binding writes to the copy that it makes. -/
theorem obeys_bindTo (base : Ref) (key : Key) (value : Ref) :
    Obeys S (fun _ => True) (bindTo ask base key value) fun copy => Disposable S.first copy := by
  refine (obeys_of_creates asked (straight_settle base).stepwise).bind fun o => .hold [o] ?_
  refine (obeys_copyOf asked settles o).bind fun copy => .hold [copy] ?_
  have owner : Obeys S (Disposable S.first copy) (ownerOf ask o)
      fun _ => Disposable S.first copy :=
    .of_moves (spares_of_creates asked (straight_ownerOf o).stepwise) copy
  have written : Obeys S (Disposable S.first copy)
      (placeOf ask copy key >>= fun place => write ask place value >>= fun _ => pure copy)
      fun copy => Disposable S.first copy := by
    refine (obeys_placeOf asked copy key).bind fun place => ?_
    intro frame s enough ⟨disposable, name, isSlot⟩
    subst isSlot
    have ends : Obeys S (Disposable S.first copy) (pure copy : Action Ref)
        fun copy => Disposable S.first copy := .pure fun _ disposable => disposable
    exact ((obeys_write asked copy name value).bind fun _ => ends) frame s enough disposable
  refine owner.bind fun found => ?_
  cases found with
  | none => exact written
  | some owner => exact (obeys_moveTo copy owner).bind fun _ => written

/-- A method is a value, or owned as the copy that is made. -/
theorem obeys_methodFrom (owner found : Ref) :
    Obeys S (fun _ => True) (methodFrom ask owner found) fun method =>
      Disposable S.first method := by
  have look : Obeys S (fun _ => True) (cell found) fun c s => c = s.heap.cell found :=
    fun frame s _ _ => ⟨S.refl s, fun _ _ h => by cases h; rfl⟩
  refine look.bind fun c => ?_
  by_cases isData : c.isData = true
  · simp only [isData, if_true]
    refine .pure fun s is => ?_
    have isData : (s.heap.cell found).isData = true := is ▸ isData
    exact ⟨Heap.lt_size_of_isData isData, Cell.isView_of_isData isData, .inr isData⟩
  · simp only [isData, Bool.false_eq_true, if_false]
    have copied : Obeys S (fun _ => True)
        (copyOf ask found >>= fun method => moveTo ask method owner >>= fun _ => pure method)
        fun method => Disposable S.first method :=
      (obeys_copyOf asked settles found).bind fun method =>
        (obeys_moveTo method owner).bind fun _ => .pure fun _ disposable => disposable
    exact .hold [found] (copied.weaken (fun _ _ => trivial) fun _ _ disposable => disposable)

theorem obeys_methodOf (base : Ref) (name : String) :
    Obeys S (fun _ => True) (methodOf ask base name) fun method => Disposable S.first method := by
  refine (obeys_of_creates asked (straight_settle base).stepwise).bind fun o => .hold [o] ?_
  refine (obeys_of_creates asked (Stepwise.request (.find o name))).bind fun place => ?_
  exact (obeys_of_creates asked (Stepwise.request (.read place))).bind fun found =>
    obeys_methodFrom asked settles o found

/-- What a view derives is no view.  Unless it is the object behind other views, it exists. -/
theorem obeys_derivedBy (v : View) :
    Obeys S (fun _ => True) (derivedBy ask v) fun derived s =>
      (s.heap.cell derived).isView = false ∧
        ((∀ base, v ≠ .unvar base) → derived.index < s.heap.size) := by
  have made {derived : Ref} {s : State} (disposable : Disposable S.first derived s) :
      (s.heap.cell derived).isView = false ∧
        ((∀ base, v ≠ .unvar base) → derived.index < s.heap.size) :=
    ⟨disposable.concrete, fun _ => disposable.exist⟩
  cases v with
  | bind base key value =>
      exact (obeys_bindTo asked settles base key value).weaken (fun _ _ => trivial) fun _ _ => made
  | method base name =>
      exact (obeys_methodOf asked settles base name).weaken (fun _ _ => trivial) fun _ _ => made
  | copy base =>
      exact (obeys_copyOf asked settles base).weaken (fun _ _ => trivial) fun _ _ => made
  | unvar base =>
      exact fun frame s _ _ => ⟨spares_of_creates asked (straight_settle base).stepwise frame s,
        fun _ _ settled => ⟨settles.settle settled, fun more => absurd rfl (more base)⟩⟩

/-- Finding what a view stands for spares what keeping it does. -/
theorem obeys_resolveView {r : Ref} (keeps : ∀ derived, (keepResult r derived).Moves S.Spares) :
    Obeys S (fun _ => True) (resolveView ask r) fun _ _ => True := by
  refine (obeys_of_creates asked (Stepwise.act (.cell r))).bind fun c => ?_
  have settled (kept : Ref) := obeys_of_creates asked (straight_settle kept).stepwise
  rcases c with ⟨_, table | v | ⟨v, kept | kept⟩⟩
  case view.none =>
    exact (obeys_derivedBy asked settles v).bind fun derived =>
      ((Obeys.of_moves_only (keeps derived)).weaken (fun _ _ => trivial) fun _ _ => id).bind settled
  case view.some => exact settled kept
  all_goals exact .pure fun _ _ => trivial

/-- A part of an attempt is a copy made for it. -/
theorem obeys_partOf (r : Ref) (name : String) :
    Obeys S (fun _ => True) (partOf ask r name) fun part => Disposable S.first part := by
  refine (obeys_of_creates asked (Stepwise.request (.find r name))).bind fun p => ?_
  refine (obeys_of_creates asked (Stepwise.request (.read p))).bind fun prototype => ?_
  refine ((obeys_copyOf asked settles prototype).hold p.refs).bind fun part => ?_
  exact ((obeys_moveTo part r).hold [part]).bind fun _ => .pure fun _ disposable => disposable

theorem obeys_runMain (r : Ref) :
    Obeys S (fun _ => True) (runMain ask r) fun _ _ => True := by
  refine (obeys_partOf asked settles r "main").bind fun main => .hold [main] ?_
  have first : Obeys S (Disposable S.first main) (placeAt ask main 0) fun p s =>
      Disposable S.first main s ∧ ∃ name, p = .slot main name :=
    obeys_placeOf asked main (.position 0)
  refine first.bind fun place => ?_
  intro frame s enough ⟨disposable, name, isSlot⟩
  subst isSlot
  have makes : (alloc (.table (signalTable r))).Moves S.Spares :=
    fun _ s => S.creates (.alloc s (.table (signalTable r)) nofun)
  have made : Obeys S (Disposable S.first main) (alloc (.table (signalTable r))) fun _ =>
      Disposable S.first main := .of_moves makes main
  have run : Obeys S (Disposable S.first main) (ask (.dataize main)) fun _ _ => True :=
    (obeys_of_creates asked (Stepwise.request (.dataize main))).weaken (fun _ _ => trivial)
      fun _ _ _ => trivial
  have all := made.bind fun raiser => (obeys_write asked main name raiser).bind fun _ => run
  exact all frame s enough disposable

theorem obeys_runCatch (r payload : Ref) :
    Obeys S (fun _ => True) (runCatch ask r payload) fun _ _ => True := by
  refine ((obeys_partOf asked settles r "catch").hold [payload]).bind fun handler => ?_
  have rest := obeys_of_creates asked (.bind (Stepwise.act (.view (.bind handler (.position 0)
    payload))) fun applied => Stepwise.request (.dataize applied))
  exact rest.weaken (fun _ _ => trivial) fun _ _ _ => trivial

theorem obeys_runFinally (r : Ref) :
    Obeys S (fun _ => True) (runFinally ask r) fun _ _ => True := by
  refine (obeys_partOf asked settles r "finally").bind fun final => ?_
  have rest := obeys_of_creates asked (.bind (Stepwise.request (.dataize final)) fun _ =>
    Stepwise.act (.pure ()))
  exact rest.weaken (fun _ _ => trivial) fun _ _ _ => trivial

end Operations

/-! ## Answers to rely on -/

/-- The answers spare all objects that exist, and the object behind views is no view. -/
structure Answerer.Sound (ask : Answerer) : Prop where
  spares : ∀ n, Answerer.Moves (State.Spares n) ask
  concrete : ∀ {r frame s o t}, ask (.resolve r) frame s = .answer o t →
    (t.heap.cell o).isView = false

variable {n : Nat} {ask : Answerer}

section

variable (sound : ask.Sound)
include sound

theorem Answerer.Sound.settles : ask.Settles := fun _ _ _ _ _ h => sound.concrete h

/-- What answers to rely on do to the first objects. -/
theorem Answerer.Sound.bare (n : Nat) : Answerer.Moves (Sparing.bare n).Spares ask := sound.spares n

/-- Handling a raise spares all objects. -/
theorem spares_handle (r : Ref) (outcome : Except Failure Value) (n : Nat) :
    (handle ask r outcome).Moves (State.Spares n) := by
  intro frame s
  rcases outcome with f | v
  · cases f with
    | raise target payload =>
        rw [handle, bind_of_answer (vertex_apply r frame s)]
        split
        · exact (Obeys.moves (fun n => obeys_runCatch (sound.bare n) sound.settles r payload)
            n).observe frame s
        · exact .refl s
    | _ => exact .refl s
  · exact .refl s

/-- An attempt spares all objects. -/
theorem spares_attempt (r : Ref) (n : Nat) : (attempt ask r).Moves (State.Spares n) := by
  refine Action.Moves.bind State.Spares.trans
    (Obeys.moves (fun n => obeys_runMain (sound.bare n) sound.settles r) n).observe fun outcome => ?_
  refine (spares_handle sound r outcome n).bind State.Spares.trans fun outcome => ?_
  have finals : (hold (outcomeRefs outcome) (runFinally ask r)).Moves (State.Spares n) :=
    fun frame s => Obeys.moves (fun n => obeys_runFinally (sound.bare n) sound.settles r) n _ s
  refine finals.bind State.Spares.trans fun _ => ?_
  have ends : Stepwise State.Creates True fun _ => conclude outcome >>= data :=
    .bind (Stepwise.conclude outcome) fun v => Stepwise.act (.data v)
  exact spares_of_creates (sound.bare n) ends

end

/-! ## Runs -/

/-- Answers made of answers to rely on can be relied on. -/
theorem sound_answer {ask : Answerer} (sound : ask.Sound) : Answerer.Sound (answer ask) where
  spares n := by
    intro α q frame s
    have creates {α : Type} {x : Answerer → Action α} (h : Stepwise State.Creates True x) :
        (x ask).Moves (State.Spares n) := spares_of_creates (sound.bare n) h
    cases q with
    | find r name => exact creates (straight_findPlace r name).stepwise _ s
    | read p =>
        have reads : Stepwise (State.Spares n) True fun ask => readPlace ask p :=
          (straight_readPlace p).stepwise.mono State.Fills.spares
        exact reads.moves State.Spares.trans (sound.spares n) _ s
    | resolve r =>
        have keeps (n : Nat) (derived : Ref) : (keepResult r derived).Moves (State.Spares n) :=
          fun frame s => ((acts_keepResult r derived).moves frame s).spares
        exact Obeys.moves (fun n => obeys_resolveView (sound.bare n) sound.settles (keeps n)) n _ s
    | dataize r => exact creates (stepwise_dataizeObject r) _ s
    | eval e self =>
        by_cases attempted : e = .native .attempt
        · subst attempted
          exact spares_attempt sound self n _ s
        · exact creates (straight_evalExpr self attempted).stepwise _ s
  concrete h := sound.settles.resolveView h

/-- The answers of the evaluator can be relied on. -/
theorem sound_answerWithin (steps : Nat) : Answerer.Sound (answerWithin steps) := by
  induction steps with
  | zero => exact ⟨fun n _ q frame s => .refl s, fun h => by cases h⟩
  | succ steps ih => exact sound_answer ih

/-- What answers of the evaluator lead to has grown. -/
theorem grows_of_answer {α : Type} {x : Answerer → Action α} (h : Stepwise State.Changes True x)
    {steps : Nat} {frame : Frame} {s t : State} {a : α}
    (ending : x (answerWithin steps) frame s = .answer a t) : s.heap.Grows t.heap := by
  have asked : Answerer.Moves State.Grows (answerWithin steps) :=
    fun q frame s => ((sound_answerWithin steps).spares 0 q frame s).grows
  have moves := (h.mono State.Changes.grows).moves State.Grows.trans asked frame s
  rwa [ending] at moves

/-! ## What stays of an object -/

/-- Of an object nothing changes but caches and the result of a view, and these only from empty to
filled. -/
structure Heap.Untouched (h h' : Heap) (r : Ref) : Prop where
  vertex : h'.vertex r = h.vertex r
  form : (h'.cell r).form = (h.cell r).form
  names : (h'.cell r).slots.names = (h.cell r).slots.names
  home : (h'.cell r).home? = (h.cell r).home?
  owner : (h'.cell r).owner? = (h.cell r).owner?
  value : (h'.cell r).value? = (h.cell r).value?
  free : ∀ {name content}, h.slot? r name = some (.free content) →
    h'.slot? r name = some (.free content)
  vararg : ∀ {name items}, h.slot? r name = some (.vararg items) →
    h'.slot? r name = some (.vararg items)
  composite : ∀ {name origin}, h.slot? r name = some (.composite origin) →
    h'.slot? r name = some (.composite origin)
  once : ∀ {name origin cache}, h.slot? r name = some (.once origin cache) →
    ∃ cache', h'.slot? r name = some (.once origin cache') ∧ Stays cache cache'
  view : ∀ {v result}, (h.cell r).kind = .view v result →
    ∃ result', (h'.cell r).kind = .view v result' ∧ Stays result result'

/-- Bare objects that are the same have the same owner. -/
theorem Cell.owner?_of_bare {c c' : Cell} (same : c'.bare = c.bare) : c'.owner? = c.owner? := by
  obtain ⟨v, k⟩ := c
  obtain ⟨v', k'⟩ := c'
  simp only [bare] at same
  cases k <;> cases k' <;> simp_all [Cell.owner?]

/-- Bare objects that are the same have the same slots but for caches. -/
theorem Cell.slots_of_bare {c c' : Cell} (same : c'.bare = c.bare) :
    c'.slots.copy = c.slots.copy := by
  obtain ⟨v, k⟩ := c
  obtain ⟨v', k'⟩ := c'
  simp only [bare] at same
  cases k <;> cases k' <;> simp_all [Cell.slots]

/-- An object that is the same when bare, in a heap that has grown, is untouched. -/
theorem Heap.untouched_of_bare {h h' : Heap} {r : Ref} (grows : h.Grows h') (old : r.index < h.size)
    (same : (h'.cell r).bare = (h.cell r).bare) : h.Untouched h' r := by
  have grown := grows.cell r old
  have copies := Cell.slots_of_bare same
  have slot {name : String} {slot : Slot} (found : h.slot? r name = some slot) :
      ∃ slot', h'.slot? r name = some slot' ∧ slot.Grows slot' ∧ slot'.copy = slot.copy := by
    obtain ⟨slot', found', grows⟩ := grows.slot found
    have copied : (h'.cell r).slots.copy.find? name = (h.cell r).slots.copy.find? name := by
      rw [copies]
    rw [Slots.find?_copy, Slots.find?_copy, show (h'.cell r).slots.find? name = _ from found',
      show (h.cell r).slots.find? name = _ from found] at copied
    exact ⟨slot', found', grows, Option.some.inj copied⟩
  exact
    { vertex := grown.vertex
      form := grown.form
      names := grown.slots.names
      home := grown.home?
      owner := Cell.owner?_of_bare same
      value := grown.value?
      free := by
        intro name content found
        obtain ⟨slot', found', grows, copied⟩ := slot found
        cases grows
        rw [found']
        exact congrArg some copied
      vararg := by
        intro name items found
        obtain ⟨slot', found', grows, copied⟩ := slot found
        cases grows
        rw [found']
        exact congrArg some copied
      composite := grows.composite
      once := grows.once
      view := by
        intro v result derived
        exact grown.view derived }

/-- An object that is spared is untouched. -/
theorem State.Spares.untouched {s t : State} (spared : s.Spares n t) {r : Ref}
    (early : r.index < n) (old : r.index < s.heap.size) : s.heap.Untouched t.heap r :=
  Heap.untouched_of_bare spared.grows old (spared.bare r early old)

/-- The state after dataizing global objects one after the other, whatever the runs end in. -/
def State.dataizing (s : State) (frame : Frame) (names : List String) : State :=
  names.foldl (fun s name => (dataizeGlobal name frame s).state) s

theorem spares_dataizing (frame : Frame) (names : List String) (s : State) :
    s.Spares n (s.dataizing frame names) := by
  induction names generalizing s with
  | nil => exact .refl s
  | cons name rest ih =>
      have first : (dataizeGlobal name).Moves (State.Spares n) :=
        spares_of_creates ((sound_answerWithin stepLimit).bare n)
          (straight_globalValue name).stepwise
      exact (first frame s).trans (ih _)

/-- **Evaluation leaves the objects that exist as they are.**  While a request is answered in any
state, however deeply it is nested and whether it ends in an answer, in a failure, in a raise or
not at all, the objects that existed before keep their owners and what they hold; only caches and
results of views are filled.  So it is for any number of global objects dataized one after the
other. -/
theorem objects_persist {s : State} {r : Ref} (old : r.index < s.heap.size) (frame : Frame) :
    (∀ {α : Type} (q : Request α) (steps : Nat),
        s.heap.Untouched (answerWithin steps q frame s).state.heap r) ∧
      ∀ names, s.heap.Untouched (s.dataizing frame names).heap r := by
  refine ⟨fun q steps => ?_, fun names => ?_⟩
  · exact ((sound_answerWithin steps).spares (r.index + 1) q frame s).untouched
      (Nat.lt_succ_self _) old
  · exact (spares_dataizing frame names s).untouched (Nat.lt_succ_self _) old

/-- An object with an empty slot, and a view of it in which the slot is bound. -/
def State.withBinding : State :=
  ((State.initial.alloc (.table { form := "point", slots := [("x", .free none)] })).2.alloc
    (.view (.bind ⟨1⟩ (.position 0) ⟨0⟩) none)).2

/-- Looking through the view binds the slot of a new object and not that of the one it is a view
of. -/
theorem bound_point_persists :
    let t := (answerWithin 1 (.resolve ⟨2⟩) {} State.withBinding).state
    t.heap.slot? ⟨1⟩ "x" = some (.free none) ∧ t.heap.slot? ⟨3⟩ "x" = some (.free (some ⟨0⟩)) := by
  intro t
  have old : (⟨1⟩ : Ref).index < State.withBinding.heap.size := by decide
  exact ⟨((objects_persist old {}).1 (.resolve ⟨2⟩) 1).free rfl, rfl⟩

end PhiCalculus
