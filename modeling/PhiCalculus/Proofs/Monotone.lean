import PhiCalculus.Proofs.Concrete
import PhiCalculus.Proofs.Operations

/-!
# Objects only gain content

Whatever is done with objects, in whatever order and whether it succeeds or fails, an object that
exists keeps its vertex, its form, its names and its home, and what it holds it holds from then on.

The slots of objects may compute anything that can be done by operations (`Computations`).  A
computation may use the very slot or view that it is computed for, so the state in which a slot is
filled need not be the one in which its computation started.  To speak about the states in between,
a run may be cut short at any request, when it starts or when it has ended (`answeredUntil`).  One
state is later than another if operations lead from one to the other, or if both belong to the same
run and the one where it was cut short comes first (`Later`).
-/

set_option autoImplicit false

namespace PhiCalculus

open PhiCalculus.Action

/-! ## Computations of slots -/

/-- What the slots of objects compute.  An expression stands for any computation that acts on
objects by operations. -/
structure Computations where
  run : Answerer → Ref → Expr → Action Ref
  performs : ∀ self e, Performs True fun ask => run ask self e

/-- The computations of programs and sessions. -/
def Computations.ofExpressions : Computations where
  run ask self e := evalExpr ask self e
  performs := performs_evalExpr

/-- Answers a request by means of answers to others, where slots compute what is given. -/
def answerBy (c : Computations) (ask : Answerer) {α : Type} (request : Request α) : Action α :=
  match request with
  | .eval e self => hold [self] (c.run ask self e)
  | .find r name => answer ask (.find r name)
  | .read p => answer ask (.read p)
  | .resolve r => answer ask (.resolve r)
  | .dataize r => answer ask (.dataize r)

/-- Goes on unless the run is to stop in this state. -/
def pause (stop : State → Bool) : Action Unit := fun _ s =>
  if stop s then @Outcome.unfinished _ s else .answer () s

/-- Runs an action that may be stopped before and after it. -/
def stoppable {α : Type} (stop : State → Bool) (x : Action α) : Action α := do
  pause stop
  let result ← observe x
  pause stop
  conclude result

/-- Answers requests that nest no deeper than allowed.  The run is cut short where a request starts
or has ended in a state in which it is to stop. -/
def answeredUntil (c : Computations) (stop : State → Bool) : Nat → {α : Type} → Request α → Action α
  | 0, _, _ => fun _ s => @Outcome.unfinished _ s
  | steps + 1, _, request => stoppable stop (answerBy c (answeredUntil c stop steps) request)

theorem stoppable_never {α : Type} (x : Action α) : stoppable (fun _ => false) x = x := by
  funext frame s
  rw [stoppable]
  change (observe x >>= fun result => conclude result) frame s = x frame s
  cases ending : x frame s with
  | answer a t => exact bind_of_answer (observe_of_answer ending) _
  | failure f t => exact bind_of_answer (observe_of_failure ending) _
  | @unfinished t => exact bind_of_unfinished (observe_of_unfinished ending) _

/-- Where slots compute expressions, runs that are not stopped are those of the evaluator. -/
theorem answeredUntil_ofExpressions (steps : Nat) {α : Type} (q : Request α) :
    answeredUntil .ofExpressions (fun _ => false) steps q = answerWithin steps q := by
  induction steps generalizing α with
  | zero => rfl
  | succ steps ih =>
      have same : (@answeredUntil .ofExpressions (fun _ => false) steps) = @answerWithin steps := by
        funext β p
        exact ih p
      rw [answeredUntil, stoppable_never, same]
      cases q <;> rfl

/-! ## Later states -/

/-- Operations lead from one state to the other, or both belong to one run, which is cut short
earlier for the first than for the second. -/
inductive Later (c : Computations) : State → State → Prop where
  | refl (s : State) : Later c s s
  | trans {s t u : State} : Later c s t → Later c t u → Later c s u
  | performed {α : Type} {x : Answerer → Action α} (performs : Performs True x)
      (stop : State → Bool) (steps : Nat) (frame : Frame) (s : State) :
      Later c s (x (answeredUntil c stop steps) frame s).state
  | resumed {α : Type} {x : Answerer → Action α} (performs : Performs True x)
      {stop stop' : State → Bool} (fewer : ∀ s, stop' s = true → stop s = true)
      {steps steps' : Nat} (more : steps ≤ steps') (frame : Frame) (s : State) :
      Later c (x (answeredUntil c stop steps) frame s).state
        (x (answeredUntil c stop' steps') frame s).state

/-! ## What requests change by themselves -/

variable {α : Type} {c : Computations}

namespace Request

/-- The slot is read. -/
def Reads (r : Ref) (name : String) : {α : Type} → Request α → Prop
  | _, .read (.slot r' name') => r' = r ∧ name' = name
  | _, _ => False

/-- What the view stands for is found. -/
def Resolves (r : Ref) : {α : Type} → Request α → Prop
  | _, .resolve r' => r' = r
  | _, _ => False

end Request

/-- What a request changes by itself is what operations change, what keeping does that is computed
in the slot that is read, and what keeping does that is derived by the view that is resolved. -/
theorem stepwise_answerBy_of {R : State → State → Prop}
    (edits : ∀ ⦃s t : State⦄, s.Edits t → R s t) (c : Computations) (q : Request α)
    (keeps : ∀ r name computed, q.Reads r name → (keep r name computed).Moves R)
    (results : ∀ r derived, q.Resolves r → (keepResult r derived).Moves R) :
    Stepwise R True fun ask => answerBy c ask q := by
  have creates ⦃s t : State⦄ (h : s.Creates t) : R s t := edits h.edits
  cases q with
  | find r name => exact .hold [r] ((straight_findPlace r name).stepwise.mono creates)
  | read p =>
      refine .hold p.refs (Straight.stepwise (straight_readPlace_of creates
        fun r name computed here => ?_))
      subst here
      exact keeps r name computed ⟨rfl, rfl⟩
  | resolve r =>
      exact .hold [r] (straight_resolveView_of edits fun derived => results r derived rfl).stepwise
  | dataize r => exact .hold [r] ((stepwise_dataizeObject r).mono creates)
  | eval e self => exact .hold [self] ((c.performs self e).edits.mono edits)

theorem changes_answerBy (c : Computations) (q : Request α) :
    Stepwise State.Changes True fun ask => answerBy c ask q :=
  stepwise_answerBy_of State.Edits.changes c q
    (fun r name computed _ frame s => ((acts_keep r name computed).moves frame s).changes)
    fun r derived _ frame s => ((acts_keepResult r derived).moves frame s).changes

/-! ## Runs make the heap grow -/

section Moves

variable {R : State → State → Prop}

theorem moves_pause (refl : ∀ s, R s s) (stop : State → Bool) : (pause stop).Moves R := by
  intro frame s
  rw [pause]
  split <;> exact refl s

theorem moves_conclude (refl : ∀ s, R s s) (result : Except Failure α) :
    (conclude result).Moves R := by
  intro frame s
  cases result <;> exact refl s

theorem moves_stoppable (refl : ∀ s, R s s) (trans : ∀ ⦃s t u : State⦄, R s t → R t u → R s u)
    (stop : State → Bool) {x : Action α} (moves : x.Moves R) : (stoppable stop x).Moves R :=
  (moves_pause refl stop).bind trans fun _ =>
    moves.observe.bind trans fun result =>
      (moves_pause refl stop).bind trans fun _ => moves_conclude refl result

/-- What every single change does is done by every answer. -/
theorem moves_of_changes (refl : ∀ s, R s s) (trans : ∀ ⦃s t u : State⦄, R s t → R t u → R s u)
    (changes : ∀ ⦃s t : State⦄, s.Changes t → R s t) (c : Computations) (stop : State → Bool)
    (steps : Nat) : Answerer.Moves R (answeredUntil c stop steps) := by
  induction steps with
  | zero => exact fun q frame s => refl s
  | succ steps ih =>
      intro α q
      exact moves_stoppable refl trans stop (((changes_answerBy c q).mono changes).moves trans ih)

variable (refl : ∀ s, R s s) (trans : ∀ ⦃s t u : State⦄, R s t → R t u → R s u)
include refl trans

omit trans in
theorem upto_pause {stop stop' : State → Bool} (fewer : ∀ s, stop' s = true → stop s = true) :
    (pause stop).Upto R (pause stop') := by
  intro frame s
  by_cases stopped : stop s = true
  · rw [pause, if_pos stopped]
    exact .short (moves_pause refl stop' frame s)
  · have goes : stop' s ≠ true := fun h => stopped (fewer s h)
    rw [pause, pause, if_neg stopped, if_neg goes]
    exact .same _

theorem upto_stoppable {stop stop' : State → Bool} (fewer : ∀ s, stop' s = true → stop s = true)
    {x x' : Action α} (upto : x.Upto R x') (moves : x'.Moves R) :
    (stoppable stop x).Upto R (stoppable stop' x') := by
  have last (result : Except Failure α) :
      ((pause stop >>= fun _ => conclude result)).Upto R (pause stop' >>= fun _ => conclude result) :=
    (upto_pause refl fewer).bind trans (fun _ _ _ => .same _) fun _ => moves_conclude refl result
  have ends (result : Except Failure α) :
      Action.Moves R (pause stop' >>= fun _ => conclude result) :=
    (moves_pause refl stop').bind trans fun _ => moves_conclude refl result
  exact (upto_pause refl fewer).bind trans (fun _ => upto.observe.bind trans last ends)
    fun _ => moves.observe.bind trans ends

variable (changes : ∀ ⦃s t : State⦄, s.Changes t → R s t)
include changes

/-- An answer that is cut short is cut short in an earlier state of the same run. -/
theorem upto_answeredUntil (c : Computations) {stop stop' : State → Bool}
    (fewer : ∀ s, stop' s = true → stop s = true) {steps steps' : Nat} (more : steps ≤ steps') :
    Answerer.Upto R (answeredUntil c stop steps) (answeredUntil c stop' steps') := by
  induction steps generalizing steps' with
  | zero =>
      exact fun q frame s => .short (moves_of_changes refl trans changes c stop' steps' q frame s)
  | succ steps ih =>
      intro α q
      obtain ⟨steps', rfl⟩ : ∃ k, steps' = k + 1 := ⟨steps' - 1, by omega⟩
      have moves : Answerer.Moves R (answeredUntil c stop' steps') :=
        moves_of_changes refl trans changes c stop' steps'
      have upto : Answerer.Upto R (answeredUntil c stop steps) (answeredUntil c stop' steps') :=
        ih (Nat.le_of_succ_le_succ more)
      have made := (changes_answerBy c q).mono changes
      exact upto_stoppable refl trans fewer (made.upto trans moves upto) (made.moves trans moves)

/-- **What single changes do has been done in later states.** -/
theorem Later.moves {s t : State} (later : Later c s t) : R s t := by
  induction later with
  | refl s => exact refl s
  | trans _ _ first second => exact trans first second
  | performed performs stop steps frame s =>
      exact (performs.stepwise.mono changes).moves trans
        (moves_of_changes refl trans changes c stop steps) frame s
  | @resumed α x performs stop stop' fewer steps steps' more frame s =>
      have moves : Answerer.Moves R (answeredUntil c stop' steps') :=
        moves_of_changes refl trans changes c stop' steps'
      have upto := (performs.stepwise.mono changes).upto trans moves
        (upto_answeredUntil refl trans changes c fewer more) frame s
      generalize x (answeredUntil c stop steps) frame s = o at upto
      generalize x (answeredUntil c stop' steps') frame s = o' at upto
      cases upto with
      | same => exact refl _
      | short earlier => exact earlier

end Moves

/-- Every answer makes the heap grow. -/
theorem moves_answeredUntil (c : Computations) (stop : State → Bool) (steps : Nat) :
    Answerer.Moves State.Grows (answeredUntil c stop steps) :=
  moves_of_changes State.Grows.refl State.Grows.trans State.Changes.grows c stop steps

/-- **Later states have grown.** -/
theorem Later.grows {s t : State} (later : Later c s t) : s.heap.Grows t.heap :=
  later.moves (R := State.Grows) State.Grows.refl State.Grows.trans State.Changes.grows

/-! ## What an object keeps -/

/-- What an object that exists in one heap keeps in another. -/
structure Heap.Keeps (h h' : Heap) (r : Ref) : Prop where
  vertex : h'.vertex r = h.vertex r
  form : (h'.cell r).form = (h.cell r).form
  names : (h'.cell r).slots.names = (h.cell r).slots.names
  home : (h'.cell r).home? = (h.cell r).home?
  free : ∀ {name p}, h.slot? r name = some (.free (some p)) →
    h'.slot? r name = some (.free (some p))
  owner : ∀ {p}, (h.cell r).owner? = some p → (h'.cell r).owner? = some p
  once : ∀ {name e p}, h.slot? r name = some (.once e (some p)) →
    h'.slot? r name = some (.once e (some p))
  view : ∀ {v p}, (h.cell r).kind = .view v (some p) → (h'.cell r).kind = .view v (some p)
  vararg : ∀ {name items}, h.slot? r name = some (.vararg items) →
    ∃ items', h'.slot? r name = some (.vararg items') ∧ items <+: items'

/-- In a heap that has grown, objects keep what they have. -/
theorem Heap.Grows.keeps {h h' : Heap} (grown : h.Grows h') {r : Ref} (old : r.index < h.size) :
    h.Keeps h' r where
  vertex := grown.vertex old
  form := (grown.cell r old).form
  names := (grown.cell r old).slots.names
  home := (grown.cell r old).home?
  free := by
    intro name p held
    obtain ⟨content, held', kept⟩ := grown.free held
    rw [held', kept p rfl]
  owner := by
    intro p owned
    exact (grown.cell r old).owner p owned
  once := by
    intro name e p cached
    obtain ⟨cache, cached', kept⟩ := grown.once cached
    rw [cached', kept p rfl]
  view := by
    intro v p derived
    obtain ⟨result, derived', kept⟩ := (grown.cell r old).view derived
    rw [derived', kept p rfl]
  vararg := grown.vararg

/-! ## Writing what is written -/

theorem write_bound {t : State} {r : Ref} {name : String} {p : Ref}
    (bound : t.heap.slot? r name = some (.free (some p))) (ask : Answerer) (value : Ref)
    (frame : Frame) :
    write ask (.slot r name) value frame t =
      .failure (.alreadyBound name (t.heap.subject r)) t :=
  (write_free bound value).trans (fill_bound bound value)

theorem table_of_owner {t : State} {r p : Ref} (owned : (t.heap.cell r).owner? = some p) :
    ∃ table, (t.heap.cell r).kind = .table table ∧ table.owner = some p := by
  rw [Cell.owner?] at owned
  cases kind : (t.heap.cell r).kind with
  | table table =>
      rw [kind] at owned
      exact ⟨table, rfl, owned⟩
  | data v => simp [kind] at owned
  | view v result => simp [kind] at owned

theorem own_bound {t : State} {r p : Ref} (owned : (t.heap.cell r).owner? = some p)
    (ask : Answerer) (owner : Ref) (frame : Frame) :
    moveTo ask r owner frame t = .failure (.alreadyBound rho (t.heap.subject r)) t ∧
      write ask (.owner r) owner frame t = .failure (.alreadyBound rho (t.heap.subject r)) t := by
  obtain ⟨table, kind, bound⟩ := table_of_owner owned
  have refused : ownConcrete r owner frame t = _ := ownConcrete_bound kind bound owner
  exact ⟨(moveTo_of_concrete (isView_of_table kind) owner).trans refused, refused⟩

/-! ## The heap is monotone -/

/-- **Whatever operations do, objects only gain content.**  In every later state an object has the
vertex, the form, the names and the home that it had, and what it held it still holds: the content
of a free slot, the owner, the cache of a slot that is computed once, the result of a view, and
the items of a slot that takes any number of them, as the first of its items.  Writing such a free
slot or binding such an owner again fails then and changes nothing. -/
theorem objects_only_gain {s t : State} (later : Later c s t) {r : Ref}
    (old : r.index < s.heap.size) :
    s.heap.Keeps t.heap r ∧
      (∀ {name p}, s.heap.slot? r name = some (.free (some p)) → ∀ steps stop frame value,
        write (answeredUntil c stop steps) (.slot r name) value frame t =
          .failure (.alreadyBound name (s.heap.subject r)) t) ∧
      (∀ {p}, (s.heap.cell r).owner? = some p → ∀ steps stop frame owner,
        moveTo (answeredUntil c stop steps) r owner frame t =
            .failure (.alreadyBound rho (s.heap.subject r)) t ∧
          write (answeredUntil c stop steps) (.owner r) owner frame t =
            .failure (.alreadyBound rho (s.heap.subject r)) t) := by
  have keeps := later.grows.keeps old
  have subject : t.heap.subject r = s.heap.subject r := (later.grows.cell r old).subject
  refine ⟨keeps, ?_, ?_⟩
  · intro name p held steps stop frame value
    rw [write_bound (keeps.free held) _ value frame, subject]
  · intro p owned steps stop frame owner
    have refused := own_bound (keeps.owner owned) (answeredUntil c stop steps) owner frame
    rwa [subject] at refused

/-- A point with one slot that is written. -/
def State.withPoint : State :=
  (State.initial.alloc (.table { form := "point", slots := [("x", .free (some ⟨0⟩))] })).2

/-- After the point was copied, its slot holds what it held and refuses to be written. -/
theorem point_stays_written :
    let answers : Answerer := answeredUntil .ofExpressions (fun _ => false) 2
    let t := ((Operation.copy ⟨1⟩).run answers {} State.withPoint).state
    t.heap.slot? ⟨1⟩ "x" = some (.free (some ⟨0⟩)) ∧
      write answers (.slot ⟨1⟩ "x") ⟨1⟩ {} t =
        .failure (.alreadyBound "x" (.object ⟨2⟩ "point")) t := by
  intro answers t
  have later : Later .ofExpressions State.withPoint t :=
    .performed (Performs.operation (.copy ⟨1⟩)) _ 2 {} _
  have gain := objects_only_gain later (show (1 : Nat) < State.withPoint.heap.size by decide)
    (r := ⟨1⟩)
  exact ⟨gain.1.free rfl, gain.2.1 rfl 2 _ {} ⟨1⟩⟩

end PhiCalculus
