import PhiCalculus.Eval.Run

/-!
# How evaluations are put together

Every step of an evaluation is a function of the answerer that it puts its requests to.  All of them
are put together in the same few ways: one after the other, with objects held in use, one
dataization deeper, or with a failure looked at (`Composed`).  What they are made of is left open;
in `Stepwise` it is requests and single changes of the state.

Three facts follow once for everything that is put together so.  If every part moves the state along
a preorder, so does the whole (`Stepwise.moves`).  If answers are cut short, the whole ends as
before or is cut short in an earlier state (`Stepwise.upto`).  If no part looks at raises, a raise
that a request ends in is what the whole ends in (`Stepwise.passes`).
-/

set_option autoImplicit false

namespace PhiCalculus

open PhiCalculus.Action

variable {α β : Type}

/-! ## Equations of actions -/

namespace Action

variable {x : Action α} {frame : Frame} {s t : State}

theorem bind_apply (x : Action α) (f : α → Action β) (frame : Frame) (s : State) :
    (x >>= f) frame s =
      match x frame s with
      | .answer a s => f a frame s
      | .failure e s => .failure e s
      | @Outcome.unfinished _ s => @Outcome.unfinished _ s := rfl

theorem bind_of_answer {a : α} (h : x frame s = .answer a t) (f : α → Action β) :
    (x >>= f) frame s = f a frame t := by
  rw [bind_apply, h]

theorem bind_of_failure {e : Failure} (h : x frame s = .failure e t) (f : α → Action β) :
    (x >>= f) frame s = .failure e t := by
  rw [bind_apply, h]

theorem bind_of_unfinished (h : x frame s = @Outcome.unfinished α t) (f : α → Action β) :
    (x >>= f) frame s = @Outcome.unfinished β t := by
  rw [bind_apply, h]

/-- What ends in an answer has come to the end of its first part. -/
theorem bind_eq_answer {f : α → Action β} {b : β} {u : State} :
    (x >>= f) frame s = .answer b u ↔
      ∃ a t, x frame s = .answer a t ∧ f a frame t = .answer b u := by
  constructor
  · intro h
    cases ending : x frame s with
    | answer a t => exact ⟨a, t, rfl, (bind_of_answer ending f).symm.trans h⟩
    | failure e t => cases (bind_of_failure ending f).symm.trans h
    | @unfinished t => cases (bind_of_unfinished ending f).symm.trans h
  · rintro ⟨a, t, ending, last⟩
    exact (bind_of_answer ending f).trans last

/-- What ends in a failure fails in its first part, or after it. -/
theorem bind_eq_failure {f : α → Action β} {e : Failure} {u : State} :
    (x >>= f) frame s = .failure e u ↔
      x frame s = .failure e u ∨ ∃ a t, x frame s = .answer a t ∧ f a frame t = .failure e u := by
  constructor
  · intro h
    cases ending : x frame s with
    | answer a t => exact .inr ⟨a, t, rfl, (bind_of_answer ending f).symm.trans h⟩
    | failure e' t =>
        cases (bind_of_failure ending f).symm.trans h
        exact .inl rfl
    | @unfinished t => cases (bind_of_unfinished ending f).symm.trans h
  · rintro (fails | ⟨a, t, ending, last⟩)
    · exact bind_of_failure fails f
    · exact (bind_of_answer ending f).trans last

theorem bind_pure_self (x : Action α) : (x >>= fun a => pure a) = x := by
  funext frame s
  rw [bind_apply]
  cases x frame s <;> rfl

theorem hold_apply (refs : List Ref) (x : Action α) (frame : Frame) (s : State) :
    hold refs x frame s = x { frame with held := refs ++ frame.held } s := rfl

@[simp] theorem deeper_apply (x : Action α) (frame : Frame) (s : State) :
    deeper x frame s = x { frame with depth := frame.depth + 1 } s := rfl

@[simp] theorem pure_apply (a : α) (frame : Frame) (s : State) :
    (pure a : Action α) frame s = .answer a s := rfl

@[simp] theorem fail_apply (f : Failure) (frame : Frame) (s : State) :
    (fail f : Action α) frame s = .failure f s := rfl

@[simp] theorem asks_apply (f : State → α) (frame : Frame) (s : State) :
    asks f frame s = .answer (f s) s := rfl

@[simp] theorem frame_apply (frame : Frame) (s : State) :
    Action.frame frame s = .answer frame s := rfl

@[simp] theorem cell_apply (r : Ref) (frame : Frame) (s : State) :
    cell r frame s = .answer (s.heap.cell r) s := rfl

@[simp] theorem subject_apply (r : Ref) (frame : Frame) (s : State) :
    subject r frame s = .answer (s.heap.subject r) s := rfl

@[simp] theorem vertex_apply (r : Ref) (frame : Frame) (s : State) :
    vertex r frame s = .answer (s.heap.vertex r) s := rfl

@[simp] theorem noSuchAttribute_apply (name : String) (r : Ref) (frame : Frame) (s : State) :
    (noSuchAttribute name r : Action α) frame s =
      .failure (.noSuchAttribute name (s.heap.subject r)) s := rfl

@[simp] theorem alloc_apply (k : Kind) (frame : Frame) (s : State) :
    alloc k frame s = .answer (s.alloc k).1 (s.alloc k).2 := rfl

@[simp] theorem view_apply (v : View) (frame : Frame) (s : State) :
    view v frame s = .answer (s.alloc (.view v none)).1 (s.alloc (.view v none)).2 := rfl

@[simp] theorem data_apply (v : Value) (frame : Frame) (s : State) :
    data v frame s = .answer (s.allocData v).1 (s.allocData v).2 := rfl

@[simp] theorem changeHeap_apply (f : Heap → Heap) (frame : Frame) (s : State) :
    changeHeap f frame s = .answer () { s with heap := f s.heap } := rfl

theorem observe_of_answer {a : α} (h : x frame s = .answer a t) :
    observe x frame s = .answer (.ok a) t := by
  rw [observe, h]

theorem observe_of_failure {e : Failure} (h : x frame s = .failure e t) :
    observe x frame s = .answer (.error e) t := by
  rw [observe, h]

theorem observe_of_unfinished (h : x frame s = @Outcome.unfinished α t) :
    observe x frame s = @Outcome.unfinished _ t := by
  rw [observe, h]

end Action

/-! ## How actions end -/

/-- What was answered, and the state after it. -/
def Outcome.answer? {α : Type} : Outcome α → Option (α × State)
  | answer a s => some (a, s)
  | _ => none

/-- What surrounds an action while more objects are in use. -/
def Frame.holding (frame : Frame) (refs : List Ref) : Frame :=
  { frame with held := refs ++ frame.held }

namespace Action

variable {x : Action α} {frame : Frame} {s t : State}

/-- The action ends in a result, which is an answer or a failure, and in a state. -/
def Ends (x : Action α) (frame : Frame) (s : State) : Except Failure α → State → Prop
  | .ok a, t => x frame s = .answer a t
  | .error f, t => x frame s = .failure f t

theorem Ends.state {result : Except Failure α} (h : x.Ends frame s result t) :
    (x frame s).state = t := by
  cases result <;> exact congrArg Outcome.state h

theorem ends_hold {refs : List Ref} {result : Except Failure α} :
    Ends (hold refs x) frame s result t ↔ x.Ends (frame.holding refs) s result t := by
  cases result <;> rfl

/-- A sequence ends where its first part fails, or as its second part does. -/
theorem ends_bind {k : α → Action β} {result : Except Failure β} :
    Ends (x >>= k) frame s result t ↔
      (∃ f, x.Ends frame s (.error f) t ∧ result = .error f) ∨
        ∃ a u, x.Ends frame s (.ok a) u ∧ (k a).Ends frame u result t := by
  constructor
  · intro h
    cases ending : x frame s with
    | answer a u =>
        refine .inr ⟨a, u, ending, ?_⟩
        cases result <;> exact (bind_of_answer ending k).symm.trans h
    | failure f u =>
        cases result with
        | ok b => cases (bind_of_failure ending k).symm.trans h
        | error e =>
            cases (bind_of_failure ending k).symm.trans h
            exact .inl ⟨f, ending, rfl⟩
    | @unfinished u => cases result <;> cases (bind_of_unfinished ending k).symm.trans h
  · rintro (⟨f, ending, rfl⟩ | ⟨a, u, ending, rest⟩)
    · exact bind_of_failure ending k
    · cases result <;> exact (bind_of_answer ending k).trans rest

theorem ends_bind_of_answer {a : α} {u : State} (first : x frame s = .answer a u)
    {k : α → Action β} {result : Except Failure β} :
    Ends (x >>= k) frame s result t ↔ (k a).Ends frame u result t := by
  constructor
  · intro h
    cases result <;> exact (bind_of_answer first k).symm.trans h
  · intro h
    cases result <;> exact (bind_of_answer first k).trans h

theorem ends_bind_of_failure {f : Failure} {u : State} (first : x frame s = .failure f u)
    {k : α → Action β} {result : Except Failure β} :
    Ends (x >>= k) frame s result t ↔ result = .error f ∧ t = u := by
  constructor
  · intro h
    cases result <;> cases (bind_of_failure first k).symm.trans h
    exact ⟨rfl, rfl⟩
  · rintro ⟨rfl, rfl⟩
    exact bind_of_failure first k

/-- What an action ends in is what looking at it answers. -/
theorem ends_observe {result : Except Failure (Except Failure α)} :
    Ends (observe x) frame s result t ↔ ∃ seen, result = .ok seen ∧ x.Ends frame s seen t := by
  constructor
  · intro h
    cases ending : x frame s with
    | answer a u =>
        cases result <;> cases (observe_of_answer ending).symm.trans h
        exact ⟨.ok a, rfl, ending⟩
    | failure f u =>
        cases result <;> cases (observe_of_failure ending).symm.trans h
        exact ⟨.error f, rfl, ending⟩
    | @unfinished u => cases result <;> cases (observe_of_unfinished ending).symm.trans h
  · rintro ⟨seen, rfl, ending⟩
    cases seen with
    | ok a => exact observe_of_answer ending
    | error f => exact observe_of_failure ending

end Action

/-! ## Putting actions together -/

/-- An action made of the actions in `base`.  Unless it is `catching`, it lets every raise pass that
it looks at. -/
inductive Composed (base : {α : Type} → (Answerer → Action α) → Prop) (catching : Prop) :
    {α : Type} → (Answerer → Action α) → Prop where
  | base {α : Type} {x : Answerer → Action α} : base x → Composed base catching x
  | bind {α β : Type} {x : Answerer → Action α} {f : α → Answerer → Action β} :
      Composed base catching x → (∀ a, Composed base catching (f a)) →
        Composed base catching fun ask => x @ask >>= fun a => f a @ask
  | hold {α : Type} {x : Answerer → Action α} (refs : List Ref) :
      Composed base catching x → Composed base catching fun ask => hold refs (x @ask)
  | deeper {α : Type} {x : Answerer → Action α} :
      Composed base catching x → Composed base catching fun ask => deeper (x @ask)
  | recover {α β : Type} {x : Answerer → Action α} {k : Except Failure α → Answerer → Action β} :
      Composed base catching x → (∀ e, Composed base catching (k e)) →
        (catching ∨ ∀ f : Failure, f.isRaise → ∀ ask : Answerer, k (.error f) @ask = fail f) →
          Composed base catching fun ask => observe (x @ask) >>= fun e => k e @ask

namespace Composed

variable {base more : {α : Type} → (Answerer → Action α) → Prop} {catching : Prop}

/-- What is made of parts that are themselves put together is put together of what they are
made of. -/
theorem of_parts {x : Answerer → Action α} (h : Composed base catching x)
    (parts : ∀ {α : Type} {x : Answerer → Action α}, base x → Composed more catching x) :
    Composed more catching x := by
  induction h with
  | base part => exact parts part
  | bind _ _ first rest => exact .bind first rest
  | hold refs _ ih => exact .hold refs ih
  | deeper _ ih => exact .deeper ih
  | recover _ _ passing first rest => exact .recover first rest passing

theorem ite {x y : Answerer → Action α} {p : Prop} [Decidable p] (left : Composed base catching x)
    (right : Composed base catching y) :
    Composed base catching fun ask => if p then x @ask else y @ask := by
  by_cases h : p
  · simp only [h, if_true]
    exact left
  · simp only [h, if_false]
    exact right

end Composed

/-! ## Outcomes of runs with more and with fewer answers -/

/-- An outcome is as another, or belongs to a run that was cut short in an earlier state. -/
inductive Outcome.Upto (R : State → State → Prop) : Outcome α → Outcome α → Prop where
  | same (o : Outcome α) : Upto R o o
  | short {t : State} {o : Outcome α} : R t o.state → Upto R (@Outcome.unfinished α t) o

namespace Action

variable {R : State → State → Prop}

/-- The action moves the state along `R`. -/
def Moves (R : State → State → Prop) (x : Action α) : Prop := ∀ frame s, R s (x frame s).state

/-- The action ends as another, or is cut short in an earlier state. -/
def Upto (R : State → State → Prop) (x x' : Action α) : Prop :=
  ∀ frame s, (x frame s).Upto R (x' frame s)

theorem Moves.bind (trans : ∀ ⦃a b c : State⦄, R a b → R b c → R a c) {x : Action α}
    {f : α → Action β} (first : x.Moves R) (rest : ∀ a, (f a).Moves R) :
    Action.Moves R (x >>= f) := by
  intro frame s
  have one := first frame s
  cases ending : x frame s with
  | answer a t =>
      rw [bind_of_answer ending]
      rw [ending] at one
      exact trans one (rest a frame t)
  | failure e t =>
      rw [bind_of_failure ending]
      rwa [ending] at one
  | @unfinished t =>
      rw [bind_of_unfinished ending]
      rwa [ending] at one

theorem Moves.observe {x : Action α} (moves : x.Moves R) : (observe x).Moves R := by
  intro frame s
  have one := moves frame s
  cases ending : x frame s with
  | answer a t =>
      rw [observe_of_answer ending]
      rwa [ending] at one
  | failure e t =>
      rw [observe_of_failure ending]
      rwa [ending] at one
  | @unfinished t =>
      rw [observe_of_unfinished ending]
      rwa [ending] at one

theorem Upto.bind (trans : ∀ ⦃a b c : State⦄, R a b → R b c → R a c) {x x' : Action α}
    {f f' : α → Action β} (first : x.Upto R x') (rest : ∀ a, (f a).Upto R (f' a))
    (moves : ∀ a, (f' a).Moves R) : Action.Upto R (x >>= f) (x' >>= f') := by
  intro frame s
  have one := first frame s
  generalize ending : x frame s = o at one
  generalize ending' : x' frame s = o' at one
  cases one with
  | same =>
      cases o with
      | answer a t =>
          rw [bind_of_answer ending, bind_of_answer ending']
          exact rest a frame t
      | failure e t =>
          rw [bind_of_failure ending, bind_of_failure ending']
          exact .same _
      | @unfinished t =>
          rw [bind_of_unfinished ending, bind_of_unfinished ending']
          exact .same _
  | @short t _ earlier =>
      rw [bind_of_unfinished ending]
      refine .short ?_
      cases o' with
      | answer a t' =>
          rw [bind_of_answer ending']
          exact trans earlier (moves a frame t')
      | failure e t' =>
          rw [bind_of_failure ending']
          exact earlier
      | @unfinished t' =>
          rw [bind_of_unfinished ending']
          exact earlier

theorem Upto.observe {x x' : Action α} (upto : x.Upto R x') :
    (observe x).Upto R (observe x') := by
  intro frame s
  have one := upto frame s
  generalize ending : x frame s = o at one
  generalize ending' : x' frame s = o' at one
  cases one with
  | same =>
      rw [Action.observe, Action.observe, ending, ending']
      exact .same _
  | @short t _ earlier =>
      rw [observe_of_unfinished ending]
      refine .short ?_
      cases o' with
      | answer a t' => rwa [observe_of_answer ending']
      | failure e t' => rwa [observe_of_failure ending']
      | @unfinished t' => rwa [observe_of_unfinished ending']

/-- The other action ends as this one, except where this one ends in that failure in that state. -/
def AgreesUnless (x x' : Action α) (f : Failure) (t : State) : Prop :=
  ∀ frame s, x' frame s = x frame s ∨ x frame s = .failure f t

theorem AgreesUnless.bind {x x' : Action α} {k k' : α → Action β} {f : Failure} {t : State}
    (first : x.AgreesUnless x' f t) (rest : ∀ a, (k a).AgreesUnless (k' a) f t) :
    Action.AgreesUnless (x >>= k) (x' >>= k') f t := by
  intro frame s
  rcases first frame s with same | failed
  · rw [bind_apply x', same, bind_apply x]
    cases x frame s with
    | answer a u => exact rest a frame u
    | failure e u => exact .inl rfl
    | unfinished => exact .inl rfl
  · exact .inr (bind_of_failure failed k)

theorem AgreesUnless.recover {x x' : Action α} {k k' : Except Failure α → Action β} {f : Failure}
    {t : State} (first : x.AgreesUnless x' f t) (rest : ∀ e, (k e).AgreesUnless (k' e) f t)
    (passing : k (.error f) = fail f) :
    Action.AgreesUnless (observe x >>= k) (observe x' >>= k') f t := by
  intro frame s
  rcases first frame s with same | failed
  · have seen : observe x' frame s = observe x frame s := by rw [observe, same, observe]
    rw [bind_apply (observe x'), seen, bind_apply (observe x)]
    cases observe x frame s with
    | answer e u => exact rest e frame u
    | failure e u => exact .inl rfl
    | unfinished => exact .inl rfl
  · refine .inr ?_
    rw [bind_of_answer (observe_of_failure failed), passing]
    rfl

end Action

/-- Every answer moves the state along `R`. -/
def Answerer.Moves (R : State → State → Prop) (ask : Answerer) : Prop :=
  ∀ {α : Type} (q : Request α), Action.Moves R (ask q)

/-- Every answer is as the other answerer has it, or cut short. -/
def Answerer.Upto (R : State → State → Prop) (ask ask' : Answerer) : Prop :=
  ∀ {α : Type} (q : Request α), Action.Upto R (ask q) (ask' q)

/-- Every answer is as the other answerer has it, except where it is that failure in that state. -/
def Answerer.AgreesUnless (ask ask' : Answerer) (f : Failure) (t : State) : Prop :=
  ∀ {α : Type} (q : Request α), Action.AgreesUnless (ask q) (ask' q) f t

/-! ## What follows for everything that is put together -/

/-- A request, or a move of the state along `R` that asks for nothing. -/
inductive Single (R : State → State → Prop) : {α : Type} → (Answerer → Action α) → Prop where
  | request {α : Type} (q : Request α) : Single R fun ask => ask q
  | change {α : Type} {x : Action α} : x.Moves R → Single R fun _ => x

/-- An action made of requests and moves along `R`. -/
abbrev Stepwise (R : State → State → Prop) (catching : Prop) (x : Answerer → Action α) : Prop :=
  Composed (Single R) catching x

namespace Stepwise

variable {R R' : State → State → Prop} {catching : Prop} {x : Answerer → Action α}

theorem request (q : Request α) : Stepwise R catching fun ask => ask q := .base (.request q)

theorem change {x : Action α} (h : x.Moves R) : Stepwise R catching fun _ => x :=
  .base (.change h)

theorem mono (h : Stepwise R catching x) (sub : ∀ ⦃s s' : State⦄, R s s' → R' s s') :
    Stepwise R' catching x := by
  refine Composed.of_parts h ?_
  intro α x part
  cases part with
  | request q => exact request q
  | change moves => exact change fun frame s => sub (moves frame s)

variable (trans : ∀ ⦃a b c : State⦄, R a b → R b c → R a c)
include trans

/-- **What is made of moves along a preorder moves along it.** -/
theorem moves (h : Stepwise R catching x) {ask : Answerer} (asked : ask.Moves R) :
    (x ask).Moves R := by
  induction h with
  | base part =>
      cases part with
      | request q => exact asked q
      | change moves => exact moves
  | bind _ _ first rest => exact first.bind trans rest
  | hold refs _ ih => exact fun frame s => ih _ s
  | deeper _ ih => exact fun frame s => ih _ s
  | recover _ _ _ first rest => exact first.observe.bind trans rest

/-- **A run with fewer answers ends as one with more, or is cut short in an earlier state.** -/
theorem upto (h : Stepwise R catching x) {ask ask' : Answerer} (asked : ask'.Moves R)
    (fewer : ask.Upto R ask') : (x ask).Upto R (x ask') := by
  induction h with
  | base part =>
      cases part with
      | request q => exact fewer q
      | change _ => exact fun frame s => .same _
  | bind _ later first rest =>
      exact first.bind trans rest fun a => Stepwise.moves trans (later a) asked
  | hold refs _ ih => exact fun frame s => ih _ s
  | deeper _ ih => exact fun frame s => ih _ s
  | recover _ later _ first rest =>
      exact first.observe.bind trans rest fun e => Stepwise.moves trans (later e) asked

omit trans in
/-- **A raise passes.**  Where nothing looks at raises, either a run does not depend on what answers
with the raise, or the raise is what it ends in. -/
theorem passes (h : Stepwise R False x) {f : Failure} (raises : f.isRaise) {t : State}
    {ask ask' : Answerer} (agree : ask.AgreesUnless ask' f t) :
    (x ask).AgreesUnless (x ask') f t := by
  induction h with
  | base part =>
      cases part with
      | request q => exact agree q
      | change _ => exact fun frame s => .inl rfl
  | bind _ _ first rest => exact first.bind rest
  | hold refs _ ih => exact fun frame s => ih _ s
  | deeper _ ih => exact fun frame s => ih _ s
  | recover _ _ passing first rest =>
      exact first.recover rest (passing.resolve_left id f raises ask)

end Stepwise

end PhiCalculus
