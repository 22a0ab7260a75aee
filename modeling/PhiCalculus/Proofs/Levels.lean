import PhiCalculus.Proofs.FailureSources
import PhiCalculus.Proofs.Queries
import PhiCalculus.Proofs.Surroundings

/-!
# What only dataizations do

Only a dataization goes one level deeper, and only a dataization leaves a line in the trace.
Everything else that the evaluator does stays on the level where it is done: it puts its requests at
the same depth as it runs at itself, and the trace stays as it is between them (`Level`).  What goes
straight on does (`Straight.level`), and so does an attempt.  Likewise nothing takes notice of how
the objects in use are listed.

So the answers to requests are the same in surroundings that are alike (`even_answered`).  What else
follows for a whole run, where dataizations are nested, is the subject of `Depths`.
-/

set_option autoImplicit false

namespace PhiCalculus

open PhiCalculus.Action

variable {α β : Type}

/-! ## Staying on a level -/

/-- An action that puts its requests on its own level and does nothing else but what is still. -/
inductive Level : {α : Type} → (Answerer → Action α) → Prop where
  | request {α : Type} (q : Request α) : Level fun ask => ask q
  | still {α : Type} {x : Action α} : x.Still → Level fun _ => x
  | bind {α β : Type} {x : Answerer → Action α} {f : α → Answerer → Action β} :
      Level x → (∀ a, Level (f a)) → Level fun ask => x @ask >>= fun a => f a @ask
  | hold {α : Type} {x : Answerer → Action α} (refs : List Ref) :
      Level x → Level fun ask => hold refs (x @ask)
  | observe {α : Type} {x : Answerer → Action α} : Level x → Level fun ask => observe (x @ask)

/-- Every computation stays on its level. -/
def Computations.Level (c : Computations) : Prop :=
  ∀ self e, PhiCalculus.Level fun ask => c.run ask self e

/-- **What goes straight on stays on its level.** -/
theorem Straight.level {R : State → State → Prop} {x : Answerer → Action α}
    (straight : Straight R x) : Level x := by
  induction straight with
  | request q => exact .request q
  | act acts => exact .still acts.toStill
  | bind _ _ first rest => exact .bind first rest
  | hold refs _ ih => exact .hold refs ih

namespace Level

theorem ite {x y : Answerer → Action α} {p : Prop} [Decidable p] (left : Level x)
    (right : Level y) : Level fun ask => if p then x @ask else y @ask := by
  by_cases h : p
  · simp only [h, if_true]
    exact left
  · simp only [h, if_false]
    exact right

theorem pure (a : α) : Level fun _ => Pure.pure a := .still (Acts.pure a).toStill

theorem subject (r : Ref) : Level fun _ => Action.subject r := .still (Acts.subject r).toStill

theorem cell (r : Ref) : Level fun _ => Action.cell r := .still (Acts.cell r).toStill

/-- Here failures may have terms. -/
theorem fail (f : Failure) : Level fun _ => (Action.fail f : Action α) :=
  .still ⟨fun _ _ => rfl, fun _ _ => rfl⟩

theorem conclude (result : Except Failure α) : Level fun _ => Action.conclude result := by
  cases result with
  | ok a => exact pure a
  | error f => exact fail f

end Level

/-! ## On the way to a value -/

theorem level_findData (r : Ref) : Level fun ask => findData ask r := by
  refine .bind (.observe (.request _)) fun e => ?_
  rcases e with f | place
  · cases f with
    | noSuchAttribute attr object => exact .ite (.fail _) (.fail _)
    | _ => exact .fail _
  · exact .pure place

theorem level_forceValue (r : Ref) : Level fun ask => forceValue ask r := by
  refine .bind (.cell r) fun c => ?_
  cases c.value? with
  | some v => exact .pure v
  | none =>
      refine .bind (level_findData r) fun place => .bind (.request _) fun found =>
        .bind (.cell found) fun c' => ?_
      cases c'.value? with
      | some v => exact .pure v
      | none => exact .bind (.subject r) fun _ => .bind (.subject found) fun _ => .fail _

/-! ## Attempts -/

theorem level_handle (r : Ref) (outcome : Except Failure Value) :
    Level fun ask => handle ask r outcome := by
  rcases outcome with f | v
  · cases f with
    | raise target payload =>
        refine .bind (.still (Acts.vertex r).toStill) fun _ => .ite ?_ (.pure _)
        exact .observe (straight_runCatch r payload).level
    | _ => exact .pure _
  · exact .pure _

theorem level_attempt (r : Ref) : Level fun ask => attempt ask r :=
  .bind (.observe (straight_runMain r).level) fun main =>
    .bind (level_handle r main) fun outcome =>
      .bind (.hold (outcomeRefs outcome) (straight_runFinally r).level) fun _ =>
        .bind (.conclude outcome) fun v => .still (Acts.data v).toStill

/-! ## Requests -/

theorem level_evalExpr (self : Ref) (e : Expr) : Level fun ask => evalExpr ask self e := by
  by_cases attempted : e = .native .attempt
  · subst attempted
    exact level_attempt self
  · exact (straight_evalExpr self attempted).level

/-- **What programs and sessions compute stays on its level.** -/
theorem level_ofExpressions : Computations.ofExpressions.Level := level_evalExpr

variable {c : Computations}

/-- **Every request but a dataization is answered on its own level.** -/
theorem level_answerBy (level : c.Level) {q : Request α} (other : q.dataized? = none) :
    Level fun ask => answerBy c ask q := by
  cases q with
  | find r name => exact .hold [r] (straight_findPlace r name).level
  | read p => exact .hold p.refs (straight_readPlace p).level
  | resolve r => exact .hold [r] (straight_resolveView r).level
  | dataize r => cases other
  | eval e self => exact .hold [self] (level self e)

/-! ## The end of a dataization -/

/-- What a dataization does when it is known whether there is a value. -/
def endTake (around : Frame) (r : Ref) : Except Failure Value → Action Value
  | .ok v => do
    if around.tracing then leaveLine around.depth r v
    pure v
  | .error f => place r f

/-- A dataization looks for the value one level deeper, and then ends. -/
theorem dataizeObject_apply (ask : Answerer) (r : Ref) (frame : Frame) (s : State) :
    dataizeObject ask r frame s =
      (observe (deeper (forceValue ask r)) >>= endTake frame r) frame s := by
  rw [dataizeObject, bind_of_answer (frame_apply frame s), bind_apply, bind_apply]
  rcases observe (deeper (forceValue ask r)) frame s with ⟨_ | _, _⟩ | ⟨_, _⟩ | _ <;> rfl

/-- What is left in the trace when an object has been found to have a value: nothing, or the line of
the dataization. -/
inductive State.Tells (around : Frame) (r : Ref) (v : Value) : State → State → Prop where
  | nothing {s : State} : around.tracing = false → Tells around r v s s
  | line {s : State} {term value : String} : around.tracing = true →
      s.heap.term? r = some term → s.heap.valueTerm? v = some value →
        Tells around r v s { s with trace := traceLine around.depth term value :: s.trace }

/-- What becomes of a failure on the way to the value of an object: a raise passes, and so does a
failure that has a term, and any other one gets the term of the object. -/
inductive State.Places (s : State) (r : Ref) : Failure → Failure → Prop where
  | passes {f : Failure} : (f.isRaise || f.isPlaced) = true → Places s r f f
  | adds {f : Failure} {term : String} : (f.isRaise || f.isPlaced) = false →
      s.heap.term? r = some term → Places s r f (.during term f)

section

variable {around frame : Frame} {r : Ref} {v : Value} {f : Failure} {s t : State}

theorem Action.ends_of_answer {x : Action α} {a : α} (h : x frame s = .answer a t)
    {result : Except Failure α} {u : State} :
    x.Ends frame s result u ↔ result = .ok a ∧ u = t := by
  cases result <;> simp [Ends, h, eq_comm]

theorem Action.ends_of_failure {x : Action α} (h : x frame s = .failure f t)
    {result : Except Failure α} {u : State} :
    x.Ends frame s result u ↔ result = .error f ∧ u = t := by
  cases result <;> simp [Ends, h, eq_comm]

theorem Action.not_ends_of_unfinished {x : Action α} (h : x frame s = @Outcome.unfinished α t)
    {result : Except Failure α} {u : State} : ¬ x.Ends frame s result u := by
  cases result <;> simp [Ends, h]

theorem ends_finite {part : State → Option α} {result : Except Failure α} :
    (finite part).Ends frame s result t ↔ ∃ a, part s = some a ∧ result = .ok a ∧ t = s := by
  cases known : part s with
  | none =>
      have ends : finite part frame s = @Outcome.unfinished α s := by rw [finite, known]
      simp [not_ends_of_unfinished ends]
  | some a =>
      have ends : finite part frame s = .answer a s := by rw [finite, known]
      simp [ends_of_answer ends]

/-- A line is only left where both terms come to an end. -/
theorem endTake_traced (traced : around.tracing = true) :
    endTake around r (.ok v) frame s =
      match s.heap.term? r, s.heap.valueTerm? v with
      | some term, some value =>
        .answer v { s with trace := traceLine around.depth term value :: s.trace }
      | _, _ => @Outcome.unfinished _ s := by
  rw [endTake, traced, if_pos rfl]
  simp only [leaveLine, bind_apply, finite]
  cases s.heap.term? r with
  | none => rfl
  | some term =>
      dsimp only
      cases s.heap.valueTerm? v <;> rfl

/-- A dataization that has found a value gives it and leaves its line. -/
theorem ends_endTake_ok {result : Except Failure Value} :
    (endTake around r (.ok v)).Ends frame s result t ↔ result = .ok v ∧ s.Tells around r v t := by
  cases traced : around.tracing with
  | false =>
      have ends : endTake around r (.ok v) frame s = .answer v s := by
        rw [endTake, traced]
        rfl
      rw [ends_of_answer ends]
      refine and_congr_right fun _ => ⟨?_, fun tells => ?_⟩
      · rintro rfl
        exact .nothing traced
      · cases tells with
        | nothing => rfl
        | line tracing => cases traced.symm.trans tracing
  | true =>
      have ends : endTake around r (.ok v) frame s = _ := endTake_traced traced
      constructor
      · intro h
        cases term : s.heap.term? r with
        | none =>
            rw [term] at ends
            exact absurd h (not_ends_of_unfinished ends)
        | some text =>
            cases value : s.heap.valueTerm? v with
            | none =>
                rw [term, value] at ends
                exact absurd h (not_ends_of_unfinished ends)
            | some shown =>
                rw [term, value] at ends
                obtain ⟨gives, rfl⟩ := (ends_of_answer ends).mp h
                exact ⟨gives, .line traced term value⟩
      · rintro ⟨rfl, tells⟩
        cases tells with
        | nothing silent => cases traced.symm.trans silent
        | line _ term value =>
            rw [term, value] at ends
            exact ends

/-- A dataization that has found a failure ends in it or adds a term to it. -/
theorem ends_endTake_error {result : Except Failure Value} :
    (endTake around r (.error f)).Ends frame s result t ↔
      t = s ∧ ∃ e, result = .error e ∧ s.Places r f e := by
  rw [endTake, place]
  cases passes : f.isRaise || f.isPlaced with
  | true =>
      rw [if_pos rfl, ends_of_failure (fail_apply f frame s), and_comm]
      refine and_congr_right fun _ => ⟨?_, ?_⟩
      · rintro rfl
        exact ⟨f, rfl, .passes passes⟩
      · rintro ⟨e, rfl, places⟩
        cases places with
        | passes => rfl
        | adds other => cases passes.symm.trans other
  | false =>
      rw [if_neg Bool.false_ne_true, ends_bind]
      constructor
      · rintro (⟨e, fails, _⟩ | ⟨term, u, known, fails⟩)
        · obtain ⟨_, _, same, _⟩ := ends_finite.mp fails
          cases same
        · obtain ⟨_, known, same, rfl⟩ := ends_finite.mp known
          cases same
          obtain ⟨rfl, rfl⟩ := (ends_of_failure (fail_apply _ frame u)).mp fails
          exact ⟨rfl, _, rfl, .adds passes known⟩
      · rintro ⟨rfl, e, rfl, places⟩
        cases places with
        | passes other => cases passes.symm.trans other
        | adds _ known => exact .inr ⟨_, _, ends_finite.mpr ⟨_, known, rfl, rfl⟩, rfl⟩

end

/-! ## Alike surroundings -/

theorem Action.Even.bind {x : Action α} {f : α → Action β} (first : x.Even)
    (rest : ∀ a, (f a).Even) : Action.Even (x >>= f) := by
  intro frame frame' s alike
  rw [bind_apply, bind_apply, first s alike]
  cases x frame' s with
  | answer a t => exact rest a t alike
  | failure e t => rfl
  | unfinished => rfl

theorem Action.Even.observe {x : Action α} (even : x.Even) : (observe x).Even := by
  intro frame frame' s alike
  rw [Action.observe, Action.observe, even s alike]

/-- Every answer is the same in alike surroundings. -/
def Answerer.Even (ask : Answerer) : Prop := ∀ {α : Type} (q : Request α), (ask q).Even

theorem Level.even {x : Answerer → Action α} (level : Level x) {ask : Answerer} (asked : ask.Even) :
    (x ask).Even := by
  induction level with
  | request q => exact asked q
  | still h => exact h.even
  | bind _ _ first rest => exact first.bind rest
  | hold refs _ ih => exact fun s alike => ih s (alike.holding refs)
  | observe _ ih => exact ih.observe

theorem even_endTake {frame frame' : Frame} (alike : frame.Alike frame') (r : Ref)
    (found : Except Failure Value) (s : State) :
    endTake frame r found frame s = endTake frame' r found frame' s := by
  cases found with
  | ok v =>
      rw [endTake, endTake, alike.tracing, alike.depth]
      cases frame'.tracing <;> rfl
  | error f =>
      rw [endTake, endTake, place]
      cases f.isRaise || f.isPlaced <;> rfl

theorem even_dataizeObject {ask : Answerer} (asked : ask.Even) (r : Ref) :
    (dataizeObject ask r).Even := by
  intro frame frame' s alike
  have force : Action.Even (deeper (forceValue ask r)) := fun s alike =>
    (level_forceValue r).even asked s alike.deeper
  rw [dataizeObject_apply, dataizeObject_apply, bind_apply, bind_apply, force.observe s alike]
  cases observe (deeper (forceValue ask r)) frame' s with
  | answer found t => exact even_endTake alike r found t
  | failure f t => rfl
  | unfinished => rfl

/-- **Only which objects are in use matters,** not how they are listed. -/
theorem even_answered (level : c.Level) (steps : Nat) : Answerer.Even (answered c steps) := by
  induction steps with
  | zero => exact fun _ _ _ _ _ => rfl
  | succ steps ih =>
      intro α q
      show Action.Even (answered c (steps + 1) q)
      rw [answered_succ]
      cases dataizes : q.dataized? with
      | none => exact (level_answerBy level dataizes).even ih
      | some r =>
          cases q with
          | dataize r => exact fun s alike => even_dataizeObject ih r s (alike.holding [r])
          | _ => cases dataizes

end PhiCalculus
