import PhiCalculus.Proofs.CarefulRequests
import PhiCalculus.Proofs.Veils

/-!
# Operations that do not notice veiled objects

An operation goes the same way in states that differ in veiled objects only, as long as it is not
given a veiled object, follows no view that derives from one, and asks for no home that clings to
what is veiled.
This is shown for two ways to answer requests that agree where they give nothing veiled
(`Answerer.Agrees`): here for operations on objects, for looking names up, and for views.
-/

set_option autoImplicit false

namespace PhiCalculus

open PhiCalculus.Action

/-- What answers the request is not veiled. -/
def Request.Spares (veiled : Ref → Prop) {α : Type} : Request α → α → Prop
  | .find _ _ => fun p => ∀ x ∈ p.refs, ¬ veiled x
  | .read _ => fun r => ¬ veiled r
  | .resolve _ => fun r => ¬ veiled r
  | .dataize _ => fun v => ∀ x ∈ v.items, ¬ veiled x
  | .eval _ _ => fun r => ¬ veiled r

/-- In states that differ in the veiled objects only, requests are answered alike, and not by veiled
objects. -/
def Answerer.Agrees (veiled : Veil) (ask ask' : Answerer) : Prop :=
  ∀ {α : Type} (q : Request α) {frame frame' : Frame} {s s' : State},
    Abreast veiled frame frame' s s' →
      Follows veiled (q.Spares veiled.covers) (ask q frame s) (ask' q frame' s')

/-- Nothing is said of the answer. -/
abbrev anything {α : Type} : α → Prop := fun _ => True

section

variable {α β : Type} {veiled : Veil} {ask ask' : Answerer} {frame frame' : Frame}
  {s s' : State} {r o x value : Ref} {name : String}

/-! ## Operations on objects -/

namespace Abreast

section

variable (here : Abreast veiled frame frame' s s')
include here

theorem noSuchAttribute (name : String) (r : Ref) {post : α → Prop} :
    Follows veiled post (Action.noSuchAttribute name r frame s)
      (Action.noSuchAttribute name r frame' s') :=
  here.failsAbout fun _ => rfl

omit here in
/-- Both heaps change alike. -/
theorem changes {f : Heap → Heap}
    (states : State.Veils veiled { s with heap := f s.heap } { s' with heap := f s'.heap }) :
    Follows veiled anything (changeHeap f frame s) (changeHeap f frame' s') :=
  .answer states trivial

theorem slot? (seen : ¬ veiled r) (name : String) {post : β → Prop}
    {k k' : Option Slot → Action β}
    (rest : Follows veiled post (k (s.heap.slot? r name) frame s)
      (k' (s.heap.slot? r name) frame' s')) :
    Follows veiled post ((Action.asks (fun s => s.heap.slot? r name) >>= k) frame s)
      ((Action.asks (fun s => s.heap.slot? r name) >>= k') frame' s') :=
  asks (here.states.slot? seen name) rest

theorem copyConcrete (seen : ¬ veiled r) : Follows veiled (¬ veiled ·)
    (copyConcrete r frame s) (copyConcrete r frame' s') := by
  refine here.cell seen ?_
  cases (s.heap.cell r).kind with
  | table t => exact here.alloc nofun
  | data v => exact here.answer seen
  | view v result => exact here.answer seen

theorem ownConcrete (seen : ¬ veiled r) (owner : Ref) : Follows veiled anything
    (ownConcrete r owner frame s) (ownConcrete r owner frame' s') := by
  refine here.cell seen ?_
  generalize s.heap.cell r = c
  obtain ⟨vertex, kind⟩ := c
  cases kind with
  | table t =>
      obtain ⟨form, home, owned, slots⟩ := t
      cases owned with
      | some _ => exact here.fails rfl
      | none => exact changes (here.states.setOwner seen owner)
  | data v => exact here.answer trivial
  | view v result => exact here.answer trivial

theorem refuse (p : Place) {post : Unit → Prop} :
    Follows veiled post (refuse p frame s) (refuse p frame' s') :=
  here.failsAbout fun _ => rfl

theorem fill (seen : ¬ veiled r) (name : String) (value : Ref) : Follows veiled anything
    (fill r name value frame s) (fill r name value frame' s') := by
  refine here.slot? seen name ?_
  generalize s.heap.slot? r name = slot
  rcases slot with _ | (_ | _) | _ | _ | _
  case some.free.none => exact changes (here.states.setSlot seen name _)
  all_goals exact here.refuse _

theorem append (seen : ¬ veiled r) (name : String) (items : List Ref) : Follows veiled anything
    (append r name items frame s) (append r name items frame' s') := by
  refine changes ?_
  rw [here.states.slot? seen name]
  split
  · exact here.states.setSlot seen name _
  · exact here.states

end

variable (agree : ask.Agrees veiled ask') (here : Abreast veiled frame frame' s s')
include agree here

theorem settle (seen : ¬ veiled r) : Follows veiled (¬ veiled ·)
    (settle ask r frame s) (settle ask' r frame' s') := by
  refine here.cell seen ?_
  split
  · exact agree (.resolve r) here
  · exact here.answer seen

theorem copyOf (seen : ¬ veiled r) : Follows veiled (¬ veiled ·)
    (copyOf ask r frame s) (copyOf ask' r frame' s') :=
  here.bind (here.settle agree seen) fun o _ _ here seen => (here.holding [o]).copyConcrete seen

theorem moveTo (seen : ¬ veiled r) (owner : Ref) : Follows veiled anything
    (moveTo ask r owner frame s) (moveTo ask' r owner frame' s') :=
  here.bind (here.settle agree seen) fun _ _ _ here seen => here.ownConcrete seen owner

theorem ownerOf (seen : ¬ veiled r) : Follows veiled anything
    (ownerOf ask r frame s) (ownerOf ask' r frame' s') := by
  refine here.bind (here.settle agree seen) fun o t t' here seen => ?_
  show Follows veiled anything (.answer (t.heap.cell o).owner? t)
    (.answer (t'.heap.cell o).owner? t')
  rw [here.states.same o seen]
  exact here.answer trivial

theorem ownPlace? (seen : ¬ veiled r) (name : String) :
    Follows veiled (fun p : Option Place => ∀ place, p = some place → ∀ x ∈ place.refs, ¬ veiled x)
      (ownPlace? ask r name frame s) (ownPlace? ask' r name frame' s') := by
  refine here.bind (here.settle agree seen) fun o t t' here seen => ?_
  show Follows veiled _ (.answer ((t.heap.slot? o name).map fun _ => Place.slot o name) t)
    (.answer ((t'.heap.slot? o name).map fun _ => Place.slot o name) t')
  rw [here.states.slot? seen name]
  refine here.answer fun place is x there => ?_
  obtain ⟨_, _, rfl⟩ := Option.map_eq_some_iff.mp is
  rwa [List.mem_singleton.mp there]

theorem placeAt (seen : ¬ veiled r) (position : Nat) :
    Follows veiled (fun p : Place => ∀ x ∈ p.refs, ¬ veiled x)
      (placeAt ask r position frame s) (placeAt ask' r position frame' s') := by
  refine here.bind (here.settle agree seen) fun o t t' here seen => here.cell seen ?_
  cases (t.heap.cell o).slots.openNames[position]? with
  | some name => exact here.answer (List.forall_mem_singleton.mpr seen)
  | none => exact here.fails rfl

theorem placeOf (seen : ¬ veiled r) (key : Key) :
    Follows veiled (fun p : Place => ∀ x ∈ p.refs, ¬ veiled x)
      (placeOf ask r key frame s) (placeOf ask' r key frame' s') := by
  cases key with
  | position i => exact here.placeAt agree seen i
  | name n =>
      refine here.bind (here.ownPlace? agree seen n) fun p t t' here seen => ?_
      cases p with
      | some place => exact here.answer (seen place rfl)
      | none => exact here.noSuchAttribute n r

theorem spread (seen : ¬ veiled value) (name : String) : Follows veiled anything
    (spread ask name value frame s) (spread ask' name value frame' s') := by
  refine here.cell seen ?_
  split
  · refine here.bind (agree (.dataize value) here) fun v t t' here _ => ?_
    cases v <;> first | exact here.answer trivial | exact here.fails rfl
  · exact here.answer trivial

theorem write {p : Place} (seen : ∀ x ∈ p.refs, ¬ veiled x) (seen' : ¬ veiled value) :
    Follows veiled anything (write ask p value frame s) (write ask' p value frame' s') := by
  cases p with
  | fixed r name content => exact here.refuse _
  | owner r => exact here.ownConcrete (seen r List.mem_cons_self) value
  | slot r name =>
      have seen : ¬ veiled r := seen r List.mem_cons_self
      refine here.slot? seen name ?_
      generalize s.heap.slot? r name = slot
      rcases slot with _ | _ | _ | items | _
      case some.vararg =>
        exact here.bind (here.spread agree seen' name) fun items _ _ here _ =>
          here.append seen name items
      all_goals exact here.fill seen name value

end Abreast

end

/-! ## Lookup -/

/-- Looking around an object for a name meets a home that clings to what is veiled, or one that is
veiled itself. -/
inductive State.Strays (veiled : Veil) (s : State) (held : List Ref) (name : String) :
    Ref → Prop where
  | clings {r : Ref} : s.Clings veiled (r :: held) r → Strays veiled s held name r
  | veiled {r home : Ref} : s.home? (r :: held) r = some home → veiled home →
      Strays veiled s held name r
  | outward {r home : Ref} : s.home? (r :: held) r = some home → s.heap.slot? home name = none →
      Strays veiled s held name home → Strays veiled s held name r

/-- **Who does not stray finds the same object around in both states.** -/
theorem State.Veils.enclosing? {veiled : Veil} {s s' : State} (veils : s.Veils veiled s')
    {held held' : List Ref} (more : ∀ x, x ∈ held' ↔ x ∈ held ∨ x ∈ veiled.more) {name : String}
    (fuel : Nat) {r : Ref} (near : ¬ s.Strays veiled held name r) :
    s'.enclosing? held' name fuel r = s.enclosing? held name fuel r := by
  induction fuel generalizing r with
  | zero => rfl
  | succ fuel ih =>
      have inUse (x : Ref) : x ∈ r :: held' ↔ x ∈ r :: held ∨ x ∈ veiled.more := by
        rw [List.mem_cons, List.mem_cons, more, or_assoc]
      rw [State.enclosing?, State.enclosing?, veils.home? (mt .clings near) inUse]
      cases found : s.home? (r :: held) r with
      | none => rfl
      | some home =>
          have seen : ¬ veiled home := fun is => near (.veiled found is)
          dsimp only
          rw [veils.slot? seen name]
          by_cases declared : (s.heap.slot? home name).isSome = true
          · rw [if_pos declared, if_pos declared]
          · rw [if_neg declared, if_neg declared]
            refine ih fun further => near (.outward found ?_ further)
            rwa [Option.not_isSome_iff_eq_none] at declared

section

variable {α β : Type} {veiled : Veil} {ask ask' : Answerer} {frame frame' : Frame}
  {s s' : State} {r o x value : Ref} {name : String}

namespace Abreast

section

variable (here : Abreast veiled frame frame' s s')
include here

theorem findOnValue (r : Ref) (v : Value) (name : String) : Follows veiled anything
    (findOnValue r v name frame s) (findOnValue r v name frame' s') := by
  refine ite (fun _ => here.answer trivial) fun _ => ?_
  generalize Method.ofName? v.tag name = found
  rcases indexOf? name with _ | i <;> cases v
  case some.array items =>
    dsimp only
    rw [getElem?_unpack]
    cases items[i]? with
    | some item => exact here.answer trivial
    | none => exact here.noSuchAttribute name r
  all_goals
    cases found with
    | some m => exact here.bind (here.alloc nofun) fun o _ _ here _ => here.answer trivial
    | none => exact here.noSuchAttribute name r

theorem findHome (seen : ¬ veiled r) (clear : ¬ s.Clings veiled frame.held r) :
    Follows veiled anything (findHome r frame s) (findHome r frame' s') := by
  rw [findHome_apply, findHome_apply, here.states.home? clear here.held, here.states.same r seen,
    here.states.subject r]
  cases (s.heap.cell r).home? with
  | none => exact here.fails rfl
  | some _ =>
      dsimp only
      cases s.home? frame.held r with
      | some home => exact here.answer trivial
      | none => exact here.fails rfl

theorem keep (seen : ¬ veiled r) (name : String) (computed : Ref) : Follows veiled anything
    (keep r name computed frame s) (keep r name computed frame' s') := by
  refine here.slot? seen name ?_
  generalize s.heap.slot? r name = slot
  rcases slot with _ | _ | ⟨origin, _ | _⟩ | _ | _
  case some.once.none =>
    exact here.bind (changes (here.states.setSlot seen name _)) fun _ _ _ here _ =>
      here.answer trivial
  all_goals exact here.answer trivial

theorem lookAround (near : ¬ s.Strays veiled frame.held name r) : Follows veiled anything
    (lookAround r name frame s) (lookAround r name frame' s') := by
  have around : s'.enclosing? frame'.held name (r.index + 1) r =
      s.enclosing? frame.held name (r.index + 1) r := here.states.enclosing? here.held _ near
  have nearest : enclosingOf r name frame' s' =
      .answer (s.enclosing? frame.held name (r.index + 1) r) s' := by rw [enclosingOf, around]
  refine reads rfl nearest ?_
  cases s.enclosing? frame.held name (r.index + 1) r with
  | some outer => exact (here.view _).weaken fun _ _ _ _ => trivial
  | none =>
      refine asks (here.states.global? name) ?_
      cases s.global? name with
      | some r => exact (here.view _).weaken fun _ _ _ _ => trivial
      | none => exact here.noSuchAttribute name _

end

variable (agree : ask.Agrees veiled ask') (here : Abreast veiled frame frame' s s')
include agree here

/-- What is asked is answered alike. -/
theorem asked {γ : Type} (q : Request γ) :
    Follows veiled anything (ask q frame s) (ask' q frame' s') :=
  (agree q here).weaken fun _ _ _ _ => trivial

theorem findPlace (seen : ¬ veiled r) (name : String)
    (clear : name = sigma → ¬ s.Clings veiled frame.held r) :
    Follows veiled anything (findPlace ask r name frame s) (findPlace ask' r name frame' s') := by
  refine here.cell seen ?_
  cases kind : (s.heap.cell r).kind with
  | view v result =>
      exact here.bind (agree (.resolve r) here) fun o _ _ here _ => here.asked agree (.find o name)
  | data v => exact here.findOnValue r v name
  | table t =>
      refine ite (fun _ => here.answer trivial) fun _ => ite (fun _ => here.answer trivial) fun _ =>
        ite (fun home => here.findHome seen (clear (eq_of_beq home))) fun _ =>
          ite (fun _ => here.answer trivial) fun _ => ite (fun _ => ?_) fun _ =>
            here.noSuchAttribute name r
      exact here.bind (agree (.read (.slot r phi)) here) fun o _ _ here _ =>
        here.asked agree (.find o name)

theorem readPlace {p : Place} (seen : ∀ x ∈ p.refs, ¬ veiled x) : Follows veiled anything
    (readPlace ask p frame s) (readPlace ask' p frame' s') := by
  cases p with
  | fixed r name content => exact here.answer trivial
  | owner r =>
      refine here.cell (seen r List.mem_cons_self) ?_
      cases (s.heap.cell r).owner? with
      | some owner => exact here.answer trivial
      | none => exact here.failsAbout fun _ => rfl
  | slot r name =>
      have seen : ¬ veiled r := seen r List.mem_cons_self
      have unbound : Follows veiled anything
          ((do Action.fail (.notYetBound name (← subject r)) : Action Ref) frame s)
          ((do Action.fail (.notYetBound name (← subject r)) : Action Ref) frame' s') :=
        here.failsAbout fun _ => rfl
      refine here.slot? seen name ?_
      generalize s.heap.slot? r name = slot
      rcases slot with _ | (_ | content) | ⟨origin, _ | kept⟩ | items | origin
      · exact unbound
      · exact unbound
      · exact here.answer trivial
      · exact here.bind (here.asked agree (.eval origin r)) fun computed _ _ here _ =>
          here.keep seen name computed
      · exact here.answer trivial
      · exact (here.data _).weaken fun _ _ _ _ => trivial
      · exact here.asked agree (.eval origin r)

theorem lookUp (seen : ¬ veiled r)
    (near : s.heap.slot? r name = none → ¬ s.Strays veiled frame.held name r) :
    Follows veiled anything (lookUp ask r name frame s) (lookUp ask' r name frame' s') := by
  rw [lookUp_eq, lookUp_eq]
  refine asks (congrArg Option.isSome (here.states.slot? seen name))
    (ite (fun _ => ?_) fun other => ?_)
  · exact here.asked agree (.read (.slot r name))
  · exact here.lookAround (near (Option.not_isSome_iff_eq_none.mp other))

/-! ## Views -/

theorem bindTo (seen : ¬ veiled r) (key : Key) (seen' : ¬ veiled value) : Follows veiled
    (¬ veiled ·)
    (bindTo ask r key value frame s) (bindTo ask' r key value frame' s') := by
  unfold PhiCalculus.bindTo
  refine here.bind (here.settle agree seen) fun base _ _ here seen => ?_
  have here := here.holding [base]
  refine here.bind (here.copyOf agree seen) fun copy _ _ here copied => ?_
  have here := here.holding [copy]
  refine here.bind (here.ownerOf agree seen) fun owner _ _ here _ => ?_
  have rest {t t' : State} (here : Abreast veiled _ _ t t') : Follows veiled (¬ veiled ·)
      ((do
        let place ← PhiCalculus.placeOf ask copy key
        PhiCalculus.write ask place value
        pure copy : Action Ref) ((frame.holding [base]).holding [copy]) t)
      ((do
        let place ← PhiCalculus.placeOf ask' copy key
        PhiCalculus.write ask' place value
        pure copy : Action Ref) ((frame'.holding [base]).holding [copy]) t') :=
    here.bind (here.placeOf agree copied key) fun place _ _ here reached =>
      here.bind (here.write agree reached seen') fun _ _ _ here _ => here.answer copied
  cases owner with
  | some owner => exact here.bind (here.moveTo agree copied owner) fun _ _ _ here _ => rest here
  | none => exact rest here

theorem methodOf (seen : ¬ veiled r) (name : String) : Follows veiled (¬ veiled ·)
    (methodOf ask r name frame s) (methodOf ask' r name frame' s') := by
  refine here.bind (here.settle agree seen) fun base _ _ here _ => ?_
  have here := here.holding [base]
  refine here.bind (agree (.find base name) here) fun place _ _ here _ => ?_
  refine here.bind (agree (.read place) here) fun found _ _ here seen => ?_
  refine here.cell seen (ite (fun _ => here.answer seen) fun _ => ?_)
  have here := here.holding [found]
  refine here.bind (here.copyOf agree seen) fun method _ _ here copied => ?_
  exact here.bind (here.moveTo agree copied base) fun _ _ _ here _ => here.answer copied

/-- A view that derives from nothing veiled derives nothing veiled. -/
theorem derivedBy {v : View} (seen : ∀ x ∈ v.refs, ¬ veiled x) : Follows veiled (¬ veiled ·)
    (derivedBy ask v frame s) (derivedBy ask' v frame' s') := by
  cases v with
  | bind base key value =>
      exact here.bindTo agree (seen base List.mem_cons_self) key
        (seen value (List.mem_cons_of_mem _ List.mem_cons_self))
  | method base name => exact here.methodOf agree (seen base List.mem_cons_self) name
  | copy base => exact here.copyOf agree (seen base List.mem_cons_self)
  | unvar base => exact here.settle agree (seen base List.mem_cons_self)

omit agree in
theorem keepResult (seen : ¬ veiled r) (seen' : ¬ veiled x) : Follows veiled (¬ veiled ·)
    (keepResult r x frame s) (keepResult r x frame' s') := by
  have kept : Follows veiled (¬ veiled ·)
      ((do
        changeHeap (·.setResult r x)
        pure x : Action Ref) frame s)
      ((do
        changeHeap (·.setResult r x)
        pure x : Action Ref) frame' s') :=
    here.bind (changes (here.states.setResult seen seen')) fun _ _ _ here _ => here.answer seen'
  refine here.cell seen ?_
  have behind := here.states.behind r
  generalize s.heap.cell r = c at behind ⊢
  obtain ⟨vertex, kind⟩ := c
  rcases kind with t | v | ⟨v, _ | result⟩
  case view.some => exact here.answer fun is => seen (behind v result rfl is)
  all_goals exact kept

theorem resolveView (seen : ¬ veiled r)
    (derives : ∀ v kept, (s.heap.cell r).kind = .view v kept → ∀ x ∈ v.refs, ¬ veiled x) :
    Follows veiled anything (resolveView ask r frame s) (resolveView ask' r frame' s') := by
  refine here.cell seen ?_
  have behind := here.states.behind r
  generalize s.heap.cell r = c at behind derives ⊢
  obtain ⟨vertex, kind⟩ := c
  rcases kind with t | v | ⟨v, _ | kept⟩
  · exact here.answer trivial
  · exact here.answer trivial
  · refine here.bind (here.derivedBy agree (derives v none rfl)) fun derived _ _ here seen' => ?_
    refine here.bind (here.keepResult seen seen') fun kept _ _ here seen' => ?_
    exact (here.settle agree seen').weaken fun _ _ _ _ => trivial
  · have seen' : ¬ veiled kept := fun is => seen (behind v kept rfl is)
    exact (here.settle agree seen').weaken fun _ _ _ _ => trivial

end Abreast

end

end PhiCalculus
